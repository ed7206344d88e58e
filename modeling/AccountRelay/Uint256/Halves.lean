import AccountRelay.Uint256.Decimal

/-! # Words of two halves

Two numbers of 128 bits share a word, the first in its upper half. `Word.ofHalves` refuses a number
that needs more room, naming the upper one first; `Word.high` and `Word.low` read the halves back.
-/

namespace AccountRelay

/-- A number and the name of the field it belongs to. -/
structure Labelled where
  field : String
  value : Uint256

/-- A number that does not fit in half a word. -/
structure TooWide where
  field : String
  value : Uint256
deriving DecidableEq

/-- The refusal of a number in words. -/
def TooWide.message (error : TooWide) : String :=
  error.field ++ " = " ++ error.value.toDecimal ++ " does not fit in 128 bits"

/-- The least number that needs more than half a word. -/
def halfWordSize : Nat := 0x100000000000000000000000000000000

/-- The sixteen bytes of a number. -/
def Labelled.half (number : Labelled) : Except TooWide (Octets 16) :=
  if number.value.toNat < halfWordSize then .ok (Octets.ofNat 16 number.value.toNat)
  else .error ⟨number.field, number.value⟩

/-- The word with one number in its upper and one in its lower half. -/
def Word.ofHalves (high low : Labelled) : Except TooWide Word := do
  let upper ← high.half
  let lower ← low.half
  return ⟨upper.toList ++ lower.toList, by simp [upper.length_eq, lower.length_eq]⟩

/-- The number in the upper half. -/
def Word.high (word : Word) : Nat :=
  BigEndian.decode (word.toList.take 16)

/-- The number in the lower half. -/
def Word.low (word : Word) : Nat :=
  BigEndian.decode (word.toList.drop 16)

end AccountRelay
