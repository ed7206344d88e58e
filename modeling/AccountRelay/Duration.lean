import AccountRelay.Numeral

/-! # Spans of time

A span counts nanoseconds. Its text is in the largest of the units second, millisecond, microsecond
and nanosecond that it fills once, with the fraction it needs and no trailing zeros.
-/

namespace AccountRelay

/-- A span of time. -/
structure Duration where
  nanoseconds : Nat
deriving DecidableEq

namespace Duration

/-- A span of whole seconds. -/
def ofSeconds (seconds : Nat) : Duration :=
  ⟨seconds * 1000000000⟩

/-- A span of whole milliseconds. -/
def ofMilliseconds (milliseconds : Nat) : Duration :=
  ⟨milliseconds * 1000000⟩

/-- A number of nanoseconds over a unit of ten to the given power of them. -/
def inUnits (nanoseconds power : Nat) (unit : String) : String :=
  let size := 10 ^ power
  let digits := Numeral.render 10 (nanoseconds % size)
  let fraction := List.replicate (power - digits.length) '0' ++ digits
  let kept := (fraction.reverse.dropWhile (· == '0')).reverse
  let point := if power = 0 ∨ kept.isEmpty then "" else "." ++ String.ofList kept
  Numeral.decimal (nanoseconds / size) ++ point ++ unit

/-- The span in words. -/
def toText (span : Duration) : String :=
  if 1000000000 ≤ span.nanoseconds then inUnits span.nanoseconds 9 "s"
  else if 1000000 ≤ span.nanoseconds then inUnits span.nanoseconds 6 "ms"
  else if 1000 ≤ span.nanoseconds then inUnits span.nanoseconds 3 "µs"
  else inUnits span.nanoseconds 0 "ns"

end Duration

end AccountRelay
