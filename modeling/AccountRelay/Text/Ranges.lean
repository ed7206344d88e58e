/-! # Ranges of characters

A property of characters is kept as the closed ranges of code points that have it, in ascending
order.
-/

namespace AccountRelay.Text

/-- Whether the code point of a character lies in one of the closed ranges. -/
def isWithin (ranges : Array (Nat × Nat)) (c : Char) : Bool :=
  ranges.any fun (first, last) => first ≤ c.toNat && c.toNat ≤ last

end AccountRelay.Text
