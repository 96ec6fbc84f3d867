import HiveTable.Text.Percent
import HiveTable.Yaml.Cursor

/-! The texts of a document in their five styles: plain, between single or double quotes,
and as a block of lines that are kept or folded. -/
namespace HiveTable.Yaml
open Text.Percent (hexValue?)

/-- A plain text may look like another value; every other text is what it says. -/
inductive Scalar
  | plain (s : String)
  | exact (t : Text)
  deriving DecidableEq

/-- Breaks between two lines of a folded text: one becomes a space, of more the first goes. -/
def foldBreaks (first more : List Char) : List Char :=
  if first != ['\n'] then first ++ more else if more.isEmpty then [' '] else more

/-! ## Plain -/

def endsPlain (flow : Bool) (c : Char) : Bool :=
  c == ' ' || c == '\t' || isBreak c ||
    flow && (c == ',' || c == '[' || c == ']' || c == '\x7b' || c == '\x7d')

/-- Characters up to a blank, a colon that ends a key, or a flow indicator. -/
def plainRun (flow : Bool) : List Char → List Char
  | [] => []
  | c :: rest =>
    if c == ' ' || c == '\t' || isBreak c then []
    else if c == ':' && rest.head?.all (endsPlain flow) then []
    else if flow && (c == '?' || endsPlain flow c) then []
    else c :: plainRun flow rest

/-- Breaks and spaces after a line of plain text; none if a separator follows. -/
def plainBreaks : Nat → Cursor → List Char → Option (List Char) × Cursor
  | 0, c, breaks => (some breaks, c)
  | fuel + 1, c, breaks =>
    if c.peek == ' ' then plainBreaks fuel c.next breaks
    else if c.atBreak then
      let (b, c) := c.lineBreak
      if c.atSeparator then (none, c) else plainBreaks fuel c (breaks ++ b)
    else (some breaks, c)

/-- What joins a run of plain text to the next, if anything does, and whether a line ended. -/
def plainGap (c : Cursor) : Option (List Char) × Bool × Cursor :=
  let (spaces, c) := c.span (· == ' ')
  if c.atBreak then
    let (first, c) := c.lineBreak
    if c.atSeparator then (none, true, c)
    else
      let (more, c) := plainBreaks (c.rest.length + 1) c []
      (more.map (foldBreaks first), true, c)
  else (if spaces.isEmpty then none else some spaces, false, c)

/-- Plain text from column `indent` on, whether a line ended after it, and the place after. -/
def plainFrom (flow : Bool) (indent : Nat) : Nat → Cursor → List Char → List Char → Bool →
    List Char × Bool × Cursor
  | 0, c, text, _, ended => (text, ended, c)
  | fuel + 1, c, text, gap, ended =>
    let run := if c.peek == '#' then [] else plainRun flow c.rest
    if run.isEmpty then (text, ended, c)
    else
      let text := text ++ gap ++ run
      let (gap, ended, c) := plainGap (c.skip run.length)
      match gap with
      | none => (text, ended, c)
      | some gap =>
        if c.peek == '#' || !flow && c.column < indent then (text, ended, c)
        else plainFrom flow indent fuel c text gap ended

def plain (flow : Bool) (indent : Nat) (c : Cursor) : List Char × Bool × Cursor :=
  plainFrom flow indent (c.rest.length + 1) c [] [] false

/-! ## Quoted -/

def escape? : Char → Option Char
  | '0' => some '\x00'
  | 'a' => some '\x07'
  | 'b' => some '\x08'
  | 't' | '\t' => some '\t'
  | 'n' => some '\n'
  | 'v' => some '\x0b'
  | 'f' => some '\x0c'
  | 'r' => some '\r'
  | 'e' => some '\x1b'
  | ' ' => some ' '
  | '"' => some '"'
  | '\\' => some '\\'
  | '/' => some '/'
  | 'N' => some '\x85'
  | '_' => some '\xa0'
  | 'L' => some '\u2028'
  | 'P' => some '\u2029'
  | _ => none

/-- How many hexadecimal digits follow. -/
def escapeWidth? : Char → Option Nat
  | 'x' => some 2
  | 'u' => some 4
  | 'U' => some 8
  | _ => none

/-- The letter with the code that stands in `width` hexadecimal digits. -/
def codeEscape (c : Cursor) (width : Nat) : Except Fault Letter :=
  match (List.range width).mapM fun i => hexValue? (c.peek i) with
  | none => .error .malformed
  | some ds =>
    let n := ds.foldl (fun n d => n * 16 + d) 0
    if n ≥ 0x80000000 then .error .tooLarge
    else (Letter.ofCode? n).elim (.error .unusable) .ok

/-- Breaks inside quotes, with the blanks that start the lines. -/
def quotedBreaks : Nat → Cursor → List Char → Except Fault (List Char × Cursor)
  | 0, c, breaks => .ok (breaks, c)
  | fuel + 1, c, breaks =>
    if c.atSeparator then .error .malformed
    else
      let c := c.skipWhile fun ch => ch == ' ' || ch == '\t'
      if c.atBreak then
        let (b, c) := c.lineBreak
        quotedBreaks fuel c (breaks ++ b)
      else .ok (breaks, c)

/-- Blanks inside quotes; around a break they go. -/
def quotedBlanks (c : Cursor) : Except Fault (List Char × Cursor) := do
  let (blanks, c) := c.span fun ch => ch == ' ' || ch == '\t'
  if c.atEnd then throw .malformed
  else if c.atBreak then
    let (first, c) := c.lineBreak
    let (more, c) ← quotedBreaks (c.rest.length + 1) c []
    return (foldBreaks first more, c)
  else return (blanks, c)

/-- The text up to the closing quote, and the place after it. -/
def quotedFrom (double : Bool) : Nat → Cursor → Text → Except Fault (Text × Cursor)
  | 0, _, _ => .error .malformed
  | fuel + 1, c, text =>
    let ch := c.peek
    if c.blankAt 0 then do
      let (blanks, c) ← quotedBlanks c
      quotedFrom double fuel c (text ++ Text.ofChars blanks)
    else if ch == '\'' && !double then
      if c.peek 1 == '\'' then quotedFrom double fuel (c.skip 2) (text ++ [.char '\''])
      else .ok (text, c.next)
    else if ch == '"' && double then .ok (text, c.next)
    else if ch == '\\' && double then
      let c := c.next
      let ch := c.peek
      match escape? ch, escapeWidth? ch with
      | some e, _ => quotedFrom double fuel c.next (text ++ [.char e])
      | none, some width => do
        let e ← codeEscape c.next width
        quotedFrom double fuel (c.next.skip width) (text ++ [e])
      | none, none =>
        if c.atBreak then do
          let (_, c) := c.lineBreak
          let (breaks, c) ← quotedBreaks (c.rest.length + 1) c []
          quotedFrom double fuel c (text ++ Text.ofChars breaks)
        else .error .malformed
    else quotedFrom double fuel c.next (text ++ [.char ch])

/-- From the opening quote on. -/
def quoted (double : Bool) (c : Cursor) : Except Fault (Text × Cursor) :=
  quotedFrom double (c.rest.length + 1) c.next []

/-! ## Block -/

/-- What becomes of the breaks at the end of a block. -/
inductive Chomp
  | strip | clip | keep
  deriving DecidableEq

def chomp? : Char → Option Chomp
  | '+' => some .keep
  | '-' => some .strip
  | _ => none

/-- The sign and the digit after the indicator of a block, in either order. -/
def blockHeader (c : Cursor) : Except Fault (Chomp × Option Nat × Cursor) := do
  let digit (c : Cursor) : Except Fault (Option Nat × Cursor) :=
    let ch := c.peek
    if ch == '0' then .error .malformed
    else if ch.isDigit then .ok (some (ch.toNat - 0x30), c.next)
    else .ok (none, c)
  let (chomp, width, c) ←
    match chomp? c.peek with
    | some chomp => do
      let (width, c) ← digit c.next
      pure (chomp, width, c)
    | none => do
      let (width, c) ← digit c
      match width, chomp? c.peek with
      | some _, some chomp => pure (chomp, width, c.next)
      | _, _ => pure (.clip, width, c)
  if c.peek == ' ' || c.atLineEnd then
    let c := c.skipSpaces.skipComment
    if c.atLineEnd then return (chomp, width, c.lineBreak.2) else throw .malformed
  else throw .malformed

/-- Blank lines, and the deepest column that their spaces reach. -/
def blockIndent : Nat → Cursor → List Char → Nat → List Char × Nat × Cursor
  | 0, c, breaks, deepest => (breaks, deepest, c)
  | fuel + 1, c, breaks, deepest =>
    if c.peek == ' ' then blockIndent fuel c.next breaks (max deepest c.next.column)
    else if c.atBreak then
      let (b, c) := c.lineBreak
      blockIndent fuel c (breaks ++ b) deepest
    else (breaks, deepest, c)

/-- Spaces up to a column. -/
def skipIndent (indent : Nat) (c : Cursor) : Cursor :=
  c.skip ((c.rest.takeWhile (· == ' ')).length.min (indent - c.column))

/-- Blank lines of a block whose indentation is known. -/
def blockBreaks (indent : Nat) : Nat → Cursor → List Char → List Char × Cursor
  | 0, c, breaks => (breaks, c)
  | fuel + 1, c, breaks =>
    let c := skipIndent indent c
    if c.atBreak then
      let (b, c) := c.lineBreak
      blockBreaks indent fuel c (breaks ++ b)
    else (breaks, c)

/-- The lines of a block. Folding spares lines that start with a blank. -/
def blockLines (folded : Bool) (chomp : Chomp) (indent : Nat) : Nat → Cursor → List Char →
    List Char → List Char → List Char × Cursor
  | 0, c, text, _, _ => (text, c)
  | fuel + 1, c, text, lastBreak, breaks =>
    let isLine := c.column == indent && !c.atEnd
    if isLine then
      let startsBlank (c : Cursor) : Bool := c.peek == ' ' || c.peek == '\t'
      let (line, after) := c.span (!isBreak ·)
      let (b, after) := after.lineBreak
      let (more, after) := blockBreaks indent (after.rest.length + 1) after []
      let text := text ++ breaks ++ line
      if after.column == indent && !after.atEnd then
        let joint :=
          if folded && b == ['\n'] && !startsBlank c && !startsBlank after then
            if more.isEmpty then [' '] else []
          else b
        blockLines folded chomp indent fuel after (text ++ joint) [] more
      else blockLines folded chomp indent fuel after text b more
    else
      match chomp with
      | .strip => (text, c)
      | .clip => (text ++ lastBreak, c)
      | .keep => (text ++ lastBreak ++ breaks, c)

/-- From the indicator on; `parent` is the indentation of what the block stands in. -/
def block (folded : Bool) (parent : Int) (c : Cursor) : Except Fault (List Char × Cursor) := do
  let (chomp, width, c) ← blockHeader c.next
  let least := (max 1 (parent + 1)).toNat
  let (indent, breaks, c) :=
    match width with
    | none =>
      let (breaks, deepest, c) := blockIndent (c.rest.length + 1) c [] 0
      (max least deepest, breaks, c)
    | some width =>
      let indent := least + width - 1
      let (breaks, c) := blockBreaks indent (c.rest.length + 1) c []
      (indent, breaks, c)
  return blockLines folded chomp indent (c.rest.length + 2) c [] [] breaks

end HiveTable.Yaml
