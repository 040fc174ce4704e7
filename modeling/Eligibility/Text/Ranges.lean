/-!
Sets of characters that are given by ranges of code points.
-/

set_option autoImplicit false

namespace Eligibility.Text

def inRanges (ranges : Array (Nat × Nat)) (c : Char) : Bool :=
  ranges.any fun range => range.1 ≤ c.toNat && c.toNat ≤ range.2

end Eligibility.Text
