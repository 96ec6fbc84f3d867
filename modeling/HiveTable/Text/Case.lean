import HiveTable.Text
import HiveTable.Text.CaseTable

/-! Full case mappings, letter by letter: one character may have several images, and a half
stays as it is. -/
namespace HiveTable.Text

def CaseRun.contains (r : CaseRun) (n : Nat) : Bool :=
  r.first ≤ n && n ≤ r.last && (n - r.first) % r.stride == 0

/-- The image of a character past ASCII. -/
def caseImage (runs : List CaseRun) (expansions : List (Nat × List Nat)) (c : Char) : List Char :=
  match runs.find? (·.contains c.toNat) with
  | some r => [Char.ofNat (c.toNat + r.shift).toNat]
  | none =>
    match expansions.lookup c.toNat with
    | some image => image.map Char.ofNat
    | none => [c]

def upperChar (c : Char) : List Char :=
  if c.toNat < 0x80 then [c.toUpper] else caseImage upperRuns upperExpansions c

def lowerChar (c : Char) : List Char :=
  if c.toNat < 0x80 then [c.toLower] else caseImage lowerRuns lowerExpansions c

def foldChar (c : Char) : List Char :=
  if c.toNat < 0x80 then [c.toLower] else caseImage foldRuns foldExpansions c

/-- The images of the characters of a text. -/
def mapChars (image : Char → List Char) (t : Text) : Text :=
  t.flatMap fun
    | .char c => ofChars (image c)
    | .half n => [.half n]

def upper (t : Text) : Text := t.mapChars upperChar

/-- The lower case of each character by itself, wherever it stands in the text. -/
def lower (t : Text) : Text := t.mapChars lowerChar

/-- Texts with one folded form are the same text but for letter case. -/
def fold (t : Text) : Text := t.mapChars foldChar

end HiveTable.Text
