import AccountRelay.Decimal.Binary64
import AccountRelay.Numeral

/-! # The shortest decimal text of a binary number

The text of a magnitude of double precision has the fewest digits that read back as the same
magnitude, and among those the digits nearest to it, of two that are as near the even ones. For one
digit, two digits and so on the two neighbours of the magnitude on the decimal grid of that width
are tried in exact arithmetic. The text is positional from `1e-5` up to below `1e16` and has an
exponent outside of that range.
-/

namespace AccountRelay.Binary64

/-- The magnitudes that round to a given one lie between two bounds, here in units of
`2 ^ (exponent - 2)`; the bounds belong to them when the mantissa is even. -/
def roundingBounds (magnitude : Binary64) : Nat × Nat :=
  let centre := 4 * magnitude.mantissa
  let narrow := magnitude.mantissa = fullMantissa ∧ leastExponent < magnitude.exponent
  (if narrow then centre - 1 else centre - 2, centre + 2)

/-- A decimal numeral: the digits, and the power of ten they are multiplied by. -/
structure Decimal where
  digits : Nat
  power : Int

/-- A decimal in units of `2 ^ (exponent - 2)`, as numerator and denominator. -/
def Decimal.inUnits (decimal : Decimal) (exponent : Int) : Nat × Nat :=
  let unit := exponent - 2
  let tens := 10 ^ decimal.power.natAbs
  let twos := 2 ^ unit.natAbs
  match decide (decimal.power < 0), decide (unit < 0) with
  | false, false => (decimal.digits * tens, twos)
  | false, true => (decimal.digits * tens * twos, 1)
  | true, false => (decimal.digits, tens * twos)
  | true, true => (decimal.digits * twos, tens)

/-- Whether a decimal reads back as the magnitude. -/
def readsBack (magnitude : Binary64) (decimal : Decimal) : Bool :=
  let (low, high) := roundingBounds magnitude
  let (above, below) := decimal.inUnits magnitude.exponent
  if magnitude.mantissa % 2 = 0 then low * below ≤ above && above ≤ high * below
  else low * below < above && above < high * below

/-- The distance from the magnitude, as a numerator over the denominator of `Decimal.inUnits`. -/
def distance (magnitude : Binary64) (decimal : Decimal) : Nat :=
  let (above, below) := decimal.inUnits magnitude.exponent
  let centre := 4 * magnitude.mantissa * below
  (above - centre) + (centre - above)

/-- The whole part of the magnitude over a power of ten. -/
def floorAt (magnitude : Binary64) (power : Int) : Nat :=
  let numerator := if magnitude.exponent < 0 then magnitude.mantissa
    else magnitude.mantissa * 2 ^ magnitude.exponent.natAbs
  let denominator := if magnitude.exponent < 0 then 2 ^ magnitude.exponent.natAbs else 1
  if power < 0 then numerator * 10 ^ power.natAbs / denominator
  else numerator / (denominator * 10 ^ power.natAbs)

/-- The power of ten of the leading digit, searched downwards from a bound. -/
def leadingPower (magnitude : Binary64) : Nat → Int → Int
  | 0, power => power
  | fuel + 1, power =>
    if floorAt magnitude power = 0 then leadingPower magnitude fuel (power - 1) else power

/-- The better of the two neighbours of the magnitude on a decimal grid. -/
def neighbour? (magnitude : Binary64) (power : Int) : Option Decimal :=
  let below : Decimal := ⟨floorAt magnitude power, power⟩
  let above : Decimal := ⟨below.digits + 1, power⟩
  match readsBack magnitude below, readsBack magnitude above with
  | true, true =>
    let farther := distance magnitude below
    let nearer := distance magnitude above
    let odd := below.digits % 2 = 1
    some (if nearer < farther ∨ (nearer = farther ∧ odd) then above else below)
  | true, false => some below
  | false, true => some above
  | false, false => none

/-- The first grid with a neighbour that reads back, from a power of ten downwards. -/
def search (magnitude : Binary64) : Nat → Int → Decimal
  | 0, power => ⟨floorAt magnitude power, power⟩
  | fuel + 1, power =>
    match neighbour? magnitude power with
    | some decimal => decimal
    | none => search magnitude fuel (power - 1)

/-- The shortest decimal that reads back as a magnitude other than zero. -/
def shortest (magnitude : Binary64) : Decimal :=
  search magnitude 17 (leadingPower magnitude 640 309)

/-- The digits of a decimal without trailing zeros, and the position of the point: the number of
digits before it. -/
def Decimal.placed (decimal : Decimal) : List Char × Int :=
  let digits := Numeral.render 10 decimal.digits
  let kept := (digits.reverse.dropWhile (· == '0')).reverse
  (kept, digits.length + decimal.power)

/-- A magnitude in decimal. -/
def toText (magnitude : Binary64) : String :=
  if magnitude.mantissa = 0 then "0.0"
  else
    let (digits, point) := (shortest magnitude).placed
    let count : Int := digits.length
    let zeros (number : Int) := List.replicate number.toNat '0'
    let chars :=
      if count ≤ point ∧ point ≤ 16 then digits ++ zeros (point - count) ++ ['.', '0']
      else if 0 < point ∧ point ≤ 16 then
        digits.take point.toNat ++ '.' :: digits.drop point.toNat
      else if -5 < point ∧ point ≤ 0 then '0' :: '.' :: zeros (-point) ++ digits
      else
        let fraction := if count = 1 then [] else '.' :: digits.tail
        let exponent := point - 1
        let sign := if exponent < 0 then '-' else '+'
        digits.take 1 ++ fraction ++ 'e' :: sign :: Numeral.render 10 exponent.natAbs
    String.ofList chars

end AccountRelay.Binary64
