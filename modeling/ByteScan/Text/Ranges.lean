/-!
# Ranges of characters

A class of characters is written as the list of its ranges of code points, both ends included.
-/

namespace ByteScan.Text

/-- Whether a character lies in one of the ranges. -/
def inRanges (ranges : List (Nat × Nat)) (c : Char) : Bool :=
  ranges.any fun (low, high) => low ≤ c.toNat && c.toNat ≤ high

end ByteScan.Text
