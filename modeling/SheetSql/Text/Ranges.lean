namespace SheetSql.Text

/-! Classes of characters as lists of closed ranges. -/

def inRanges (ranges : List (Nat × Nat)) (n : Nat) : Bool :=
  ranges.any fun range => range.1 ≤ n && n ≤ range.2

end SheetSql.Text
