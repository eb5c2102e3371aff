/-! Sets of characters that are given as ranges of code points. -/
namespace BuildController.Text

def inRanges (ranges : List (Nat × Nat)) (c : Char) : Bool :=
  ranges.any fun range => range.1 ≤ c.toNat && c.toNat ≤ range.2

end BuildController.Text
