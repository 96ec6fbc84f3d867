/-! Texts. A letter of a text is a character, or half of a surrogate pair that stands alone:
that has a code as a character has, but no string holds it. -/
namespace HiveTable

inductive Letter
  | char (c : Char)
  /-- A half, counted from the first one. -/
  | half (n : Fin 0x800)
  deriving DecidableEq

namespace Letter

/-- The code of the first half. -/
def firstHalf : Nat := 0xD800

def code : Letter → Nat
  | .char c => c.toNat
  | .half n => firstHalf + n

/-- Past the last character there are no letters. -/
def ofCode? (n : Nat) : Option Letter :=
  if n.isValidChar then some (.char (.ofNat n))
  else if h : firstHalf ≤ n ∧ n < firstHalf + 0x800 then some (.half ⟨n - firstHalf, by omega⟩)
  else none

def char? : Letter → Option Char
  | .char c => some c
  | .half _ => none

end Letter

abbrev Text := List Letter

namespace Text

def ofChars (s : List Char) : Text := s.map .char

def ofString (s : String) : Text := ofChars s.toList

instance : Coe String Text := ⟨ofString⟩

/-- The characters of a text that holds no half. -/
def chars? (t : Text) : Option (List Char) := t.mapM Letter.char?

def string? (t : Text) : Option String := t.chars?.map String.ofList

theorem chars?_cons (l : Letter) (rest : Text) :
    chars? (l :: rest) = l.char?.bind fun c => (chars? rest).map (c :: ·) := by
  cases l <;> cases h : rest.mapM Letter.char? <;> simp [chars?, Letter.char?, h]

theorem chars?_eq_some_iff {t : Text} {s : List Char} : t.chars? = some s ↔ t = ofChars s := by
  induction t generalizing s with
  | nil => cases s <;> simp [chars?, ofChars]
  | cons l rest ih =>
    rw [chars?_cons]
    cases l with
    | half n => cases s <;> simp [ofChars, Letter.char?]
    | char c =>
      cases s with
      | nil => simp [ofChars, Letter.char?]
      | cons d s => simpa [ofChars, Letter.char?, ih] using and_comm

/-- A text that holds no half is one string. -/
theorem string?_eq_some_iff {t : Text} {s : String} : t.string? = some s ↔ t = ofString s := by
  simp only [string?, ofString, Option.map_eq_some_iff, chars?_eq_some_iff]
  constructor
  · rintro ⟨cs, rfl, rfl⟩
    simp
  · rintro rfl
    exact ⟨s.toList, rfl, by simp⟩

@[simp] theorem string?_ofString (s : String) : (ofString s).string? = some s :=
  string?_eq_some_iff.2 rfl

def codes (t : Text) : List Nat := t.map Letter.code

/-- Texts with commas between them. -/
def listed (parts : List Text) : Text := List.intercalate (ofString ", ") parts

end Text

end HiveTable
