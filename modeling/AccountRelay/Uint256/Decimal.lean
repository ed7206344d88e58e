import AccountRelay.Numeral
import AccountRelay.Uint256.Basic

/-! # Decimal numbers

Amounts are written in plain decimal digits. `Uint256.ofDecimal` reads them from left to right and
stops at the first fault: a character that is no digit, or a digit that carries the number out of
range. No digits at all denote zero.
-/

namespace AccountRelay.Uint256

/-- Why a text is not a number in decimal digits. -/
inductive DecimalFault
  | notADigit
  | tooLarge
deriving DecidableEq

/-- A fault in words. -/
def DecimalFault.message : DecimalFault → String
  | .notADigit => "a character is not in the range 0-9"
  | .tooLarge => "the number is too large for the type"

/-- Reads on from the number that the digits so far denote. -/
def ofDecimalFrom (number : Uint256) : List Char → Except DecimalFault Uint256
  | [] => .ok number
  | c :: rest =>
    match Numeral.decimalDigit? c with
    | none => .error .notADigit
    | some digit =>
      match ofNat? (number.toNat * 10 + digit) with
      | some longer => ofDecimalFrom longer rest
      | none => .error .tooLarge

/-- Reads decimal digits. -/
def ofDecimal (text : List Char) : Except DecimalFault Uint256 :=
  ofDecimalFrom 0 text

/-- The number in decimal digits. -/
def toDecimal (number : Uint256) : String :=
  Numeral.decimal number.toNat

end AccountRelay.Uint256
