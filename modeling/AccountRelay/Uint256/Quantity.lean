import AccountRelay.Hex
import AccountRelay.Uint256.Basic

/-! # Quantities

A quantity is how a number travels in a request or a reply: hexadecimal digits without leading
zeros behind `0x`, and `0x0` for zero. The reader is more generous than the writer: it takes digits
of either case, leading zeros, an odd number of digits, no digits at all, and the mark `0x` up to
twice or not at all; it never takes more than 64 digits.
-/

namespace AccountRelay.Uint256

/-- The number as a quantity. -/
def toQuantity (number : Uint256) : String :=
  "0x" ++ Numeral.hexadecimal number.toNat

/-- Reads at most 64 hexadecimal digits; an odd number of them is read with a zero in front. -/
def ofDigits (text : List Char) : Except Hex.Fault Uint256 :=
  if 64 < Hex.byteLength text then .error .wrongLength
  else
    let even := if Hex.byteLength text % 2 = 0 then text else '0' :: text
    (Hex.decode even).map fun bytes => BitVec.ofNat 256 (BigEndian.decode bytes)

/-- Reads a quantity. -/
def ofQuantity (text : List Char) : Except Hex.Fault Uint256 :=
  ofDigits (Hex.unmarked (Hex.unmarked text))

end AccountRelay.Uint256
