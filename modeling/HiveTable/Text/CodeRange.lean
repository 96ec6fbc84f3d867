import HiveTable.Text

/-! Classes of letters given by ranges of codes. -/
namespace HiveTable.Text

/-- The first and the last code. -/
abbrev CodeRange := Nat × Nat

def inRanges (ranges : List CodeRange) (l : Letter) : Bool :=
  ranges.any fun r => r.1 ≤ l.code && l.code ≤ r.2

end HiveTable.Text
