import AccountRelay.Power

/-! # Binary numbers of double precision

A magnitude of double precision is `mantissa * 2 ^ exponent` with a mantissa of at most 53 bits.
`Binary64.nearest` rounds a positive fraction to the closest such magnitude, a tie to the even
mantissa; a fraction too large for any has none. Products and quotients are rounded that way, and
`Binary64.timesTen` is made of them: it multiplies or divides by a power of ten that is rounded
itself, so its result may be off by a little.
-/

namespace AccountRelay

/-- A finite magnitude of double precision. -/
structure Binary64 where
  mantissa : Nat
  exponent : Int
deriving DecidableEq

namespace Binary64

/-- The least mantissa of full precision, which has 53 bits. -/
def fullMantissa : Nat := 0x10000000000000

/-- The exponent of the smallest magnitudes. -/
def leastExponent : Int := -1074

/-- A quotient rounded to the nearest natural number, a tie to the even one. -/
def roundedQuotient (numerator denominator : Nat) : Nat :=
  let whole := numerator / denominator
  let twice := 2 * (numerator % denominator)
  if twice < denominator then whole
  else if denominator < twice then whole + 1
  else if whole % 2 = 0 then whole else whole + 1

/-- The fraction over a power of two, as numerator and denominator. -/
def scaled (numerator denominator : Nat) (exponent : Int) : Nat × Nat :=
  if exponent < 0 then (numerator * 2 ^ exponent.natAbs, denominator)
  else (numerator, denominator * 2 ^ exponent.natAbs)

/-- Whether the fraction has at least 54 bits over the power of two. -/
def tooFine (numerator denominator : Nat) (exponent : Int) : Bool :=
  let (above, below) := scaled numerator denominator exponent
  below * (2 * fullMantissa) ≤ above

/-- Nothing. -/
def zero : Binary64 := ⟨0, leastExponent⟩

/-- The magnitude nearest to a fraction. -/
def nearest (numerator denominator : Nat) : Option Binary64 :=
  if numerator = 0 then some zero
  else
    let guess : Int := (numerator.log2 : Int) - (denominator.log2 : Int) - 53
    let fitted := if tooFine numerator denominator guess then guess + 1 else guess
    let exponent := max fitted leastExponent
    let (above, below) := scaled numerator denominator exponent
    let rounded := roundedQuotient above below
    let result : Binary64 :=
      if rounded = 2 * fullMantissa then ⟨fullMantissa, exponent + 1⟩ else ⟨rounded, exponent⟩
    if 971 < result.exponent then none else some result

/-- The magnitude as numerator and denominator. -/
def fraction (magnitude : Binary64) : Nat × Nat :=
  scaled magnitude.mantissa 1 (-magnitude.exponent)

/-- The product, rounded. -/
def times (left right : Binary64) : Option Binary64 :=
  let (above, below) := left.fraction
  let (above', below') := right.fraction
  nearest (above * above') (below * below')

/-- The quotient, rounded. -/
def dividedBy (left right : Binary64) : Option Binary64 :=
  let (above, below) := left.fraction
  let (above', below') := right.fraction
  nearest (above * below') (below * above')

/-- The power of ten, rounded. -/
def tenTo (power : Nat) : Option Binary64 :=
  nearest (10 ^ power) 1

/-- The largest power of ten that is in range. -/
def largestTen : Nat := 308

/-- The magnitude divided by the largest power of ten, a number of times. -/
def byLargest : Nat → Binary64 → Option Binary64
  | 0, magnitude => some magnitude
  | count + 1, magnitude =>
    if magnitude.mantissa = 0 then some magnitude
    else ((tenTo largestTen).bind magnitude.dividedBy).bind (byLargest count)

/-- The magnitude divided by a power of ten other than one, by the largest one as often as more than
that is left. -/
def dividedByTen (magnitude : Binary64) (power : Nat) : Option Binary64 :=
  let count := (power - 1) / largestTen
  (byLargest count magnitude).bind fun smaller =>
    (tenTo (power - count * largestTen)).bind smaller.dividedBy

/-- The magnitude multiplied by a power of ten, if the result is in range. -/
def timesTen (magnitude : Binary64) : Int → Option Binary64
  | .ofNat power =>
    if power ≤ largestTen then (tenTo power).bind magnitude.times
    else if magnitude.mantissa = 0 then some magnitude
    else none
  | .negSucc power => magnitude.dividedByTen (power + 1)

end Binary64

end AccountRelay
