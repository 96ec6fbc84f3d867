import HiveTable.Text
import HiveTable.Text.Utf8

/-! Paths of directories and files, with a slash between the names. A path is put together as a
text; the files know it by its bytes. -/
namespace HiveTable.Path

def slash : Letter := .char '/'

/-- A path from the root, not from the place where paths start. -/
def isRooted (path : Text) : Bool := path.head? == some slash

/-- A path with a slash at its end can only be a directory. -/
def endsInSlash (path : Text) : Bool := path.getLast? == some slash

/-- A second path from the root replaces the first. -/
def join (a b : Text) : Text :=
  if isRooted b then b
  else if a.isEmpty || endsInSlash a then a ++ b
  else a ++ slash :: b

/-- What stands up to the last slash, and after it. Slashes at the end of the first part go,
unless it holds nothing else. -/
def splitLast (path : Text) : Text × Text :=
  let tail := (path.reverse.takeWhile (· != slash)).reverse
  let head := path.reverse.drop tail.length
  let head := if head.all (· == slash) then head else head.dropWhile (· == slash)
  (head.reverse, tail)

/-- The parent of a path and its last name; slashes at its end do not count. -/
def parent (path : Text) : Text × Text :=
  let (head, tail) := splitLast path
  if tail.isEmpty then splitLast head else (head, tail)

/-! ## Bytes -/

abbrev Bytes := List UInt8

/-- The bytes of a letter. The halves from `U+DC80` to `U+DCFF` stand for the bytes past ASCII;
the others have none. -/
def letterBytes? : Letter → Option Bytes
  | .char c => some (Text.Utf8.encodeChar c)
  | .half n => if 0x480 ≤ n.val ∧ n.val < 0x500 then some [.ofNat (n - 0x400)] else none

def bytes? : Text → Option Bytes
  | [] => some []
  | l :: rest => do return (← letterBytes? l) ++ (← bytes? rest)

namespace Bytes

def ofString (s : String) : Bytes := Text.Utf8.encode s.toList

instance : Coe String Bytes := ⟨ofString⟩

def slash : UInt8 := 0x2F

def isRooted (path : Bytes) : Bool := path.head? == some slash

def endsInSlash (path : Bytes) : Bool := path.getLast? == some slash

/-- The names between slashes; empty ones go. -/
def parts (path : Bytes) : List Bytes := (path.splitOn slash).filter (· != [])

/-- The name that leads nowhere, and the one that leads back. -/
def here : Bytes := "."
def up : Bytes := ".."

end Bytes

end HiveTable.Path
