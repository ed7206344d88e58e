import AccountRelay.Bytes

/-! # Numbers of 256 bits

The number type of the chain. Arithmetic on it is checked: a sum or a product that does not fit is
no number at all, never a wrapped one (`Uint256.checkedAdd_eq_some`, `Uint256.checkedMul_eq_some`).
-/

namespace AccountRelay

/-- A number below two to the 256th power. -/
abbrev Uint256 := BitVec 256

namespace Uint256

/-- A natural number, if it is in range. -/
def ofNat? (number : Nat) : Option Uint256 :=
  let result := BitVec.ofNat 256 number
  if result.toNat = number then some result else none

/-- The sum, if it is in range. -/
def checkedAdd (left right : Uint256) : Option Uint256 :=
  ofNat? (left.toNat + right.toNat)

/-- The product, if it is in range. -/
def checkedMul (left right : Uint256) : Option Uint256 :=
  ofNat? (left.toNat * right.toNat)

/-- The number as a big-endian word. -/
def toWord (number : Uint256) : Word :=
  Octets.ofNat 32 number.toNat

/-- The number a big-endian word spells. -/
def ofWord (word : Word) : Uint256 :=
  BitVec.ofNat 256 word.toNat

/-- A number makes a word exactly when it is the number of that word. -/
theorem ofNat?_eq_some {number : Nat} {result : Uint256} :
    ofNat? number = some result ↔ result.toNat = number := by
  simp only [ofNat?]
  split
  · rename_i fits
    constructor
    · intro same
      cases same
      exact fits
    · intro same
      subst same
      simp
  · rename_i wide
    constructor
    · intro same
      cases same
    · intro same
      subst same
      exact absurd (by simp) wide

/-- A checked sum is the sum of the natural numbers. -/
theorem checkedAdd_eq_some {left right result : Uint256} :
    checkedAdd left right = some result ↔ result.toNat = left.toNat + right.toNat :=
  ofNat?_eq_some

/-- A checked product is the product of the natural numbers. -/
theorem checkedMul_eq_some {left right result : Uint256} :
    checkedMul left right = some result ↔ result.toNat = left.toNat * right.toNat :=
  ofNat?_eq_some

/-- A number is read back from its word. -/
theorem ofWord_toWord (number : Uint256) : ofWord number.toWord = number := by
  have fits : number.toNat < 256 ^ 32 := number.isLt
  simp [ofWord, toWord, Octets.toNat_ofNat fits]

end Uint256

end AccountRelay
