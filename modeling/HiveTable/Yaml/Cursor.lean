import HiveTable.Yaml.Loader

/-! A place in a text: what is left of it, and the line and column of the next character. -/
namespace HiveTable.Yaml

def isBreak (c : Char) : Bool :=
  c == '\n' || c == '\r' || c == '\x85' || c == '\u2028' || c == '\u2029'

structure Cursor where
  rest : List Char
  offset : Nat := 0
  line : Nat := 0
  column : Nat := 0

namespace Cursor

/-- Stands for the end of the text, in which it cannot occur. -/
def endMark : Char := '\x00'

def peek (c : Cursor) (n : Nat := 0) : Char := c.rest.getD n endMark

def atEnd (c : Cursor) : Bool := c.rest.isEmpty

/-- Both halves of a two-character break belong to one break. A byte order mark takes no
column. -/
def next (c : Cursor) : Cursor :=
  match c.rest with
  | [] => c
  | ch :: rest =>
    if isBreak ch && !(ch == '\r' && rest.head? == some '\n') then
      { rest, offset := c.offset + 1, line := c.line + 1, column := 0 }
    else
      { rest, offset := c.offset + 1, line := c.line,
        column := if ch == '\uFEFF' then c.column else c.column + 1 }

def skip (c : Cursor) : Nat → Cursor
  | 0 => c
  | n + 1 => c.next.skip n

/-- The characters up to the first that fails the test, and the place after them. -/
def span (c : Cursor) (p : Char → Bool) : List Char × Cursor :=
  let taken := c.rest.takeWhile p
  (taken, c.skip taken.length)

def skipWhile (c : Cursor) (p : Char → Bool) : Cursor := (c.span p).2

def skipSpaces (c : Cursor) : Cursor := c.skipWhile (· == ' ')

/-- A line break, if there is one; those of plain text all become a line feed. -/
def lineBreak (c : Cursor) : List Char × Cursor :=
  let ch := c.peek
  if ch == '\r' && c.peek 1 == '\n' then (['\n'], c.skip 2)
  else if ch == '\r' || ch == '\n' || ch == '\x85' then (['\n'], c.next)
  else if isBreak ch then ([ch], c.next)
  else ([], c)

def atBreak (c : Cursor) : Bool := isBreak c.peek

/-- A break or the end of the text. -/
def atLineEnd (c : Cursor) : Bool := c.atEnd || c.atBreak

/-- Whether a blank, a break or the end stands `n` characters further on. -/
def blankAt (c : Cursor) (n : Nat) : Bool :=
  let ch := c.peek n
  ch == ' ' || ch == '\t' || ch == endMark || isBreak ch

def startsWith (c : Cursor) (s : List Char) : Bool := s.isPrefixOf c.rest

/-- Three dashes or three points that stand alone. -/
def atSeparator (c : Cursor) : Bool :=
  (c.startsWith ['-', '-', '-'] || c.startsWith ['.', '.', '.']) && c.blankAt 3

/-- Past a comment, to the end of its line. -/
def skipComment (c : Cursor) : Cursor :=
  if c.peek == '#' then c.skipWhile (!isBreak ·) else c

end Cursor

end HiveTable.Yaml
