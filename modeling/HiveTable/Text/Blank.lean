import HiveTable.Text.CodeRange

/-! Blank letters, and a text without the blanks at its ends. -/
namespace HiveTable.Text

def blankRanges : List CodeRange :=
  [(0x09, 0x0D), (0x1C, 0x20), (0x85, 0x85), (0xA0, 0xA0), (0x1680, 0x1680), (0x2000, 0x200A),
   (0x2028, 0x2029), (0x202F, 0x202F), (0x205F, 0x205F), (0x3000, 0x3000)]

def isBlank (l : Letter) : Bool := inRanges blankRanges l

def trim (t : Text) : Text := ((t.dropWhile isBlank).reverse.dropWhile isBlank).reverse

/-- Nothing is left of a blank text once its ends are trimmed. -/
def isBlankText (t : Text) : Bool := t.trim.isEmpty

end HiveTable.Text
