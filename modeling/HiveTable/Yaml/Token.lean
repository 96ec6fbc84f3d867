import HiveTable.Number.Numeral
import HiveTable.Text.Utf8
import HiveTable.Yaml.Scalar

/-! The tokens of a document. Indentation becomes tokens that open and close collections,
and a key is marked by a token in front of it, which is put there when its colon is found. -/
namespace HiveTable.Yaml
open Text.Percent (hexValue?)

inductive Token
  | streamEnd
  | version (major : Nat)
  | tagHandle (handle : String)
  | directive
  | documentStart
  | documentEnd
  | blockSequence
  | blockMapping
  | blockEnd
  | flowSequence
  | flowSequenceEnd
  | flowMapping
  | flowMappingEnd
  | flowEntry
  | blockEntry
  | key
  | value
  | reference (name : String)
  | anchor (name : String)
  | scalar (s : Scalar)
  deriving DecidableEq

/-- A token that may turn out to start a key: its index and place, and whether it must. -/
structure PossibleKey where
  index : Nat
  required : Bool
  offset : Nat
  line : Nat
  column : Nat

/-- The lexer between two tokens. An indentation below zero is that of no collection. -/
structure Lexer where
  cursor : Cursor
  flow : Nat := 0
  indent : Int := -1
  outer : List Int := []
  allowKey : Bool := true
  /-- At most one for each level of flow collections. -/
  keys : List (Nat × PossibleKey) := []
  tokens : Array Token := #[]
  ended : Bool := false

namespace Lexer

def push (l : Lexer) (t : Token) : Lexer := { l with tokens := l.tokens.push t }

def inFlow (l : Lexer) : Bool := l.flow != 0

/-- Past spaces, comments and breaks. A new line may start with a key. -/
def skipToToken : Nat → Lexer → Lexer
  | 0, l => l
  | fuel + 1, l =>
    let c := l.cursor.skipSpaces.skipComment
    if c.atBreak then
      skipToToken fuel
        { l with cursor := c.lineBreak.2, allowKey := if l.inFlow then l.allowKey else true }
    else { l with cursor := c }

/-- A key stands on one line within 1024 characters of its colon. -/
def isStale (c : Cursor) (k : PossibleKey) : Bool := k.line != c.line || c.offset - k.offset > 1024

def dropStale (l : Lexer) : Except Fault Lexer :=
  if l.keys.any fun k => isStale l.cursor k.2 && k.2.required then .error .malformed
  else .ok { l with keys := l.keys.filter fun k => !isStale l.cursor k.2 }

/-- Gives up the possible key of this level. -/
def dropKey (l : Lexer) : Except Fault Lexer :=
  match l.keys.lookup l.flow with
  | some k =>
    if k.required then .error .malformed
    else .ok { l with keys := l.keys.filter (·.1 != l.flow) }
  | none => .ok l

/-- The next token may start a key; at the start of an entry of a block mapping it must. -/
def saveKey (l : Lexer) : Except Fault Lexer := do
  if !l.allowKey then return l
  let required := !l.inFlow && l.indent == l.cursor.column
  let l ← l.dropKey
  let c := l.cursor
  return { l with
    keys := (l.flow, ⟨l.tokens.size, required, c.offset, c.line, c.column⟩) :: l.keys }

/-- Closes the block collections that are indented deeper than `column`. -/
def unwindFrom (column : Int) : List Int → Lexer → Lexer
  | [], l => l
  | outer :: rest, l =>
    if l.indent > column then
      unwindFrom column rest { l.push .blockEnd with indent := outer, outer := rest }
    else l

def unwind (l : Lexer) (column : Int) : Lexer :=
  if l.inFlow then l else unwindFrom column l.outer l

/-- Opens a block collection at a column unless one is open there. -/
def openBlock (l : Lexer) (column : Nat) (at_ : Nat) (t : Token) : Lexer :=
  if l.indent < column then
    { l with indent := column, outer := l.indent :: l.outer,
             tokens := l.tokens.insertIdxIfInBounds at_ t }
  else l

/-- A sign of `n` characters that is a token of its own. -/
def sign (l : Lexer) (n : Nat) (t : Token) : Lexer := { l.push t with cursor := l.cursor.skip n }

def documentSign (l : Lexer) (t : Token) : Except Fault Lexer := do
  let l ← (l.unwind (-1)).dropKey
  return { l with allowKey := false }.sign 3 t

def streamEnd (l : Lexer) : Except Fault Lexer := do
  let l ← (l.unwind (-1)).dropKey
  return { l with allowKey := false, keys := [], ended := true }.push .streamEnd

def isWordChar (c : Char) : Bool := c.isAlphanum || c == '-' || c == '_'

/-- The major and minor version after the name of a directive. -/
def version (c : Cursor) : Except Fault (Nat × Cursor) := do
  let number (c : Cursor) : Except Fault (Nat × Cursor) :=
    let (ds, c) := c.span Char.isDigit
    if ds.isEmpty then .error .malformed
    else if ds.length > Number.maxNumeralDigits then .error .unusable
    else .ok (ds.foldl (fun n d => n * 10 + (d.toNat - 0x30)) 0, c)
  let (major, c) ← number c.skipSpaces
  if c.peek != '.' then throw .malformed
  let (_, c) ← number c.next
  if c.peek == ' ' || c.atLineEnd then return (major, c) else throw .malformed

/-- A handle of tags: an exclamation mark, or a word between two of them. -/
def tagHandle (c : Cursor) : Except Fault (String × Cursor) := do
  if c.peek != '!' then throw .malformed
  let (word, c) := c.next.span isWordChar
  if word.isEmpty && c.peek == ' ' then return ("!", c)
  if c.peek != '!' then throw .malformed
  return (String.ofList ('!' :: word ++ ['!']), c.next)

def isUriChar (c : Char) : Bool := c.isAlphanum || "-;/?:@&=+$,_.!~*'()[]%".toList.contains c

/-- Percent signs of a URI come with two hexadecimal digits, and each stretch of such bytes is
a text. `pending` are the bytes so far, the last first. -/
def isUri (pending : List UInt8) : List Char → Bool
  | '%' :: h :: l :: rest =>
    match hexValue? h, hexValue? l with
    | some high, some low => isUri (.ofNat (high * 16 + low) :: pending) rest
    | _, _ => false
  | '%' :: _ => false
  | _ :: rest => Text.Utf8.isText pending.reverse && isUri [] rest
  | [] => Text.Utf8.isText pending.reverse

/-- The handle of a directive for tags, and behind blanks what it stands for. -/
def tagDirective (c : Cursor) : Except Fault (String × Cursor) := do
  let (handle, c) ← tagHandle c.skipSpaces
  if c.peek != ' ' then throw .malformed
  let (uri, c) := c.skipSpaces.span isUriChar
  if uri.isEmpty || !isUri [] uri then throw .malformed
  if c.peek == ' ' || c.atLineEnd then return (handle, c) else throw .malformed

/-- Directives other than those for the version and for tags say nothing here. -/
def directive (l : Lexer) : Except Fault Lexer := do
  let l ← (l.unwind (-1)).dropKey
  let (name, c) := l.cursor.next.span isWordChar
  if name.isEmpty || !(c.peek == ' ' || c.atLineEnd) then throw .malformed
  let (token, c) ←
    if name == ['Y', 'A', 'M', 'L'] then do
      let (major, c) ← version c
      pure (Token.version major, c)
    else if name == ['T', 'A', 'G'] then do
      let (handle, c) ← tagDirective c
      pure (Token.tagHandle handle, c)
    else pure (Token.directive, c.skipWhile (!isBreak ·))
  let c := c.skipSpaces.skipComment
  if !c.atLineEnd then throw .malformed
  return { l.push token with allowKey := false, cursor := c.lineBreak.2 }

def flowStart (l : Lexer) (t : Token) : Except Fault Lexer := do
  let l ← l.saveKey
  return { l with flow := l.flow + 1, allowKey := true }.sign 1 t

def flowEnd (l : Lexer) (t : Token) : Except Fault Lexer := do
  if !l.inFlow then throw .malformed
  let l ← l.dropKey
  return { l with flow := l.flow - 1, allowKey := false }.sign 1 t

def flowEntry (l : Lexer) : Except Fault Lexer := do
  let l ← { l with allowKey := true }.dropKey
  return l.sign 1 .flowEntry

/-- In a block collection an entry or a key starts only where a key may start. -/
def blockSign (l : Lexer) (collection t : Token) (allowKey : Bool) : Except Fault Lexer := do
  let l ←
    if l.inFlow then pure l
    else if l.allowKey then pure (l.openBlock l.cursor.column l.tokens.size collection)
    else throw .malformed
  let l ← { l with allowKey }.dropKey
  return l.sign 1 t

/-- A colon makes a key of what may be one; without that the key is empty. -/
def value (l : Lexer) : Except Fault Lexer :=
  match l.keys.lookup l.flow with
  | some k =>
    let l := { l with
      keys := l.keys.filter (·.1 != l.flow)
      tokens := l.tokens.insertIdxIfInBounds k.index .key }
    let l := if l.inFlow then l else l.openBlock k.column k.index .blockMapping
    .ok ({ l with allowKey := false }.sign 1 .value)
  | none => l.blockSign .blockMapping .value (!l.inFlow)

/-- A name after an ampersand or an asterisk. -/
def name (l : Lexer) (token : String → Token) : Except Fault Lexer := do
  let l ← l.saveKey
  let (word, c) := l.cursor.next.span isWordChar
  if word.isEmpty then throw .malformed
  let follows := c.blankAt 0 || ['?', ':', ',', ']', '\x7d', '%', '@', '\x60'].contains c.peek
  if !follows then throw .malformed
  return { l.push (token (String.ofList word)) with allowKey := false, cursor := c }

def quoted (l : Lexer) (double : Bool) : Except Fault Lexer := do
  let l ← l.saveKey
  let (text, c) ← Yaml.quoted double l.cursor
  return { l.push (.scalar (.exact text)) with allowKey := false, cursor := c }

def block (l : Lexer) (folded : Bool) : Except Fault Lexer := do
  let l ← { l with allowKey := true }.dropKey
  let (text, c) ← Yaml.block folded l.indent l.cursor
  return { l.push (.scalar (.exact (Text.ofChars text))) with cursor := c }

def plain (l : Lexer) : Except Fault Lexer := do
  let l ← l.saveKey
  let (text, ended, c) := Yaml.plain l.inFlow (l.indent + 1).toNat l.cursor
  return { l.push (.scalar (.plain (String.ofList text))) with allowKey := ended, cursor := c }

/-- Characters that start no plain text, whatever follows. -/
def isIndicator (c : Char) : Bool :=
  [',', '[', ']', '\x7b', '\x7d', '#', '&', '*', '!', '|', '>', '\'', '"', '%', '@',
   '\x60'].contains c

/-- A dash, and outside flow collections a question mark or a colon, may start plain text if
no blank follows. -/
def startsPlain (l : Lexer) : Bool :=
  let c := l.cursor
  let ch := c.peek
  if ch == '-' then !c.blankAt 1
  else if ch == '?' || ch == ':' then !l.inFlow && !c.blankAt 1
  else !c.blankAt 0 && !isIndicator ch

/-- Reads one token. -/
def step (l : Lexer) : Except Fault Lexer := do
  let l ← (skipToToken (l.cursor.rest.length + 1) l).dropStale
  let l := l.unwind l.cursor.column
  let c := l.cursor
  let ch := c.peek
  if c.atEnd then l.streamEnd
  else if ch == '%' && c.column == 0 then l.directive
  else if c.column == 0 && c.atSeparator then
    l.documentSign (if ch == '-' then .documentStart else .documentEnd)
  else if ch == '[' then l.flowStart .flowSequence
  else if ch == '\x7b' then l.flowStart .flowMapping
  else if ch == ']' then l.flowEnd .flowSequenceEnd
  else if ch == '\x7d' then l.flowEnd .flowMappingEnd
  else if ch == ',' then l.flowEntry
  else if ch == '-' && c.blankAt 1 then l.blockSign .blockSequence .blockEntry true
  else if ch == '?' && (l.inFlow || c.blankAt 1) then l.blockSign .blockMapping .key (!l.inFlow)
  else if ch == ':' && (l.inFlow || c.blankAt 1) then l.value
  else if ch == '*' then l.name .reference
  else if ch == '&' then l.name .anchor
  else if ch == '|' && !l.inFlow then l.block false
  else if ch == '>' && !l.inFlow then l.block true
  else if ch == '\'' then l.quoted false
  else if ch == '"' then l.quoted true
  else if l.startsPlain then l.plain
  else throw .malformed

/-- The tokens in front of which no key can be put any more. -/
def certain (l : Lexer) : Array Token :=
  let pending := l.keys.filter fun k => !isStale l.cursor k.2
  l.tokens.take ((pending.map (·.2.index)).foldl min l.tokens.size)

/-- The tokens up to the first fault; the end of the text counts as one. -/
def run : Nat → Lexer → Array Token × Fault
  | 0, l => (l.tokens, .malformed)
  | fuel + 1, l =>
    match l.step with
    | .ok l => if l.ended then (l.tokens, .malformed) else run fuel l
    | .error fault => (l.certain, fault)

end Lexer

/-- Characters that a document may hold. -/
def isAllowed (c : Char) : Bool :=
  let n := c.toNat
  c == '\t' || c == '\n' || c == '\r' || 0x20 ≤ n && n ≤ 0x7E || n == 0x85 ||
    0xA0 ≤ n && n ≤ 0xFFFD || 0x10000 ≤ n

/-- A text is read in blocks, of which the first has the length of two. -/
def blockLength : Nat := 4096

/-- The blocks before the first with a character that is not allowed, and whether these are
all. -/
def readable (s : List Char) : List Char × Bool :=
  let n := (s.takeWhile isAllowed).length
  if n = s.length then (s, true)
  else (if n < 2 * blockLength then [] else s.take (n / blockLength * blockLength), false)

/-- The tokens of a text, from behind a byte order mark at its start, and what is wrong after
the last of them. Each step but the last takes a character. -/
def tokens (s : List Char) : List Token × Fault :=
  let (s, whole) := readable s
  let c : Cursor := { rest := s }
  let c := if c.peek == '\uFEFF' then c.next else c
  let (tokens, fault) := Lexer.run (s.length + 2) { cursor := c }
  (tokens.toList.filter fun t => whole || t != .streamEnd, fault)

end HiveTable.Yaml
