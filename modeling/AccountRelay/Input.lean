import AccountRelay.Hex
import AccountRelay.Text.Blank
import AccountRelay.Uint256.Decimal

/-! # What callers write

The readers of addresses, byte strings, amounts and salts that come from outside. A value that does
not parse is refused with the name of the field it was written for and, where that helps, the text
itself in quotes.
-/

namespace AccountRelay

/-- Why a value written by a caller is refused. -/
inductive InputError
  | hex (field : String) (fault : Hex.Fault)
  | address (field text : String)
  | integer (field text : String)
  /-- A salt of more than 32 bytes. -/
  | saltTooLong (size : Nat)
  /-- Both a salt and a wallet, or neither. -/
  | walletSelection
deriving DecidableEq

/-- A refusal in words. -/
def InputError.message : InputError → String
  | .hex field fault => "invalid hex for " ++ field ++ ": " ++ fault.message
  | .address field text => "invalid address for " ++ field ++ ": " ++ Text.quoted text
  | .integer field text => "invalid integer for " ++ field ++ ": " ++ Text.quoted text
  | .saltTooLong size => "salt is " ++ Numeral.decimal size ++ " bytes; at most 32 allowed"
  | .walletSelection => "exactly one of a creation salt or an existing sender is required"

/-- The bytes as digits behind `0x`. -/
def Octets.toText {size : Nat} (octets : Octets size) : String :=
  Hex.marked octets.toList

/-- The salt of a counter: the number as a big-endian word. -/
def Salt.ofCounter (counter : UInt64) : Salt :=
  Octets.ofNat 32 counter.toNat

namespace Input

/-- Reads an address: 40 digits of either case behind an optional `0x`. -/
def address (field text : String) : Except InputError Address :=
  match Hex.octets? 20 text.toList with
  | some address => .ok address
  | none => .error (.address field text)

/-- Reads a byte string: digit pairs behind an optional `0x`. -/
def bytes (field text : String) : Except InputError Bytes :=
  (Hex.decodeMarked text.toList).mapError (.hex field)

/-- Reads an amount: decimal digits with blanks around them. -/
def amount (field text : String) : Except InputError Uint256 :=
  match Uint256.ofDecimal (Text.trimmed text.toList) with
  | .ok amount => .ok amount
  | .error _ => .error (.integer field text)

/-- The value of decimal digits, of which there has to be at least one. -/
def digitsValue? (text : List Char) : Option Nat :=
  match text.mapM Numeral.decimalDigit? with
  | some (first :: rest) => some (Numeral.value 10 (first :: rest))
  | _ => none

/-- Reads a counter below two to the 64th power: an optional plus sign and decimal digits. -/
def counter? (text : List Char) : Option UInt64 :=
  let digits := match text with
    | '+' :: rest => rest
    | _ => text
  match digitsValue? digits with
  | some number => if number < UInt64.size then some (UInt64.ofNat number) else none
  | none => none

/-- The salt of at most 32 bytes, with zeros in front. -/
def saltOfBytes (bytes : Bytes) : Except InputError Salt :=
  if 32 < bytes.length then .error (.saltTooLong bytes.length)
  else .ok (Octets.ofNat 32 (BigEndian.decode bytes))

/-- Reads a salt: bytes behind `0x`, or a decimal counter with blanks around it. -/
def salt (text : String) : Except InputError Salt :=
  match text.toList with
  | '0' :: 'x' :: digits =>
    match Hex.decode digits with
    | .ok bytes => saltOfBytes bytes
    | .error fault => .error (.hex "salt" fault)
  | chars =>
    match counter? (Text.trimmed chars) with
    | some counter => .ok (Salt.ofCounter counter)
    | none => .error (.integer "salt" text)

end Input

end AccountRelay
