/-! # The curve secp256k1

Points of the curve `y² = x³ + 7` over the field of `fieldSize` elements, with the group law written
out case by case. The group generated by `generator` has `order` elements.
-/

namespace AccountRelay.Secp256k1

/-- The number of elements of the field. -/
def fieldSize : Nat := 0xFFFFFFFFFFFFFFFFFFFFFFFFFFFFFFFFFFFFFFFFFFFFFFFFFFFFFFFEFFFFFC2F

/-- The number of elements of the group. -/
def order : Nat := 0xFFFFFFFFFFFFFFFFFFFFFFFFFFFFFFFEBAAEDCE6AF48A03BBFD25E8CD0364141

/-- A point of the curve: the neutral one, or a pair of coordinates below `fieldSize`. -/
inductive Point
  | neutral
  | affine (x y : Nat)
deriving DecidableEq

/-- The point whose multiples make up the group. -/
def generator : Point :=
  .affine 0x79BE667EF9DCBBAC55A06295CE870B07029BFCDB2DCE28D959F2815B16F81798
    0x483ADA7726A3C4655DA4FBFC0E1108A8FD17B448A68554199C47D08FFB10D4B8

/-- One step of the division algorithm: `x` and `y` are the coefficients that give the remainders
`first` and `second` from the number to invert, modulo the modulus. -/
def inverseFrom (modulus first second : Nat) (x y : Int) : Nat :=
  if _done : second = 0 then (x % modulus).toNat
  else inverseFrom modulus second (first % second) y (x - (first / second : Nat) * y)
termination_by second
decreasing_by exact Nat.mod_lt _ (by omega)

/-- The inverse of a number modulo a prime that does not divide it. -/
def inverse (modulus number : Nat) : Nat :=
  inverseFrom modulus modulus (number % modulus) 0 1

/-- The difference modulo the size of the field. -/
def minus (left right : Nat) : Nat :=
  (left + fieldSize - right) % fieldSize

/-- The third point on the line of the given slope through two points, mirrored. -/
def chord (slope x₁ y₁ x₂ : Nat) : Point :=
  let x := minus (minus (slope * slope % fieldSize) x₁) x₂
  .affine x (minus (slope * minus x₁ x % fieldSize) y₁)

/-- The sum of a point with itself. -/
def Point.double : Point → Point
  | .neutral => .neutral
  | .affine x y =>
    if y = 0 then .neutral
    else chord (3 * x * x % fieldSize * inverse fieldSize (2 * y) % fieldSize) x y x

/-- The sum of two points. -/
def Point.add : Point → Point → Point
  | .neutral, right => right
  | left, .neutral => left
  | .affine x₁ y₁, .affine x₂ y₂ =>
    if x₁ = x₂ then
      if y₁ = y₂ then (Point.affine x₁ y₁).double else .neutral
    else chord (minus y₂ y₁ * inverse fieldSize (minus x₂ x₁) % fieldSize) x₁ y₁ x₂

/-- The sum of `count` copies of a point. -/
def Point.times (count : Nat) (point : Point) : Point :=
  if _none : count = 0 then .neutral
  else
    let rest := Point.times (count / 2) point.double
    if count % 2 = 0 then rest else rest.add point
termination_by count
decreasing_by omega

end AccountRelay.Secp256k1
