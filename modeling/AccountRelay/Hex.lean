import AccountRelay.Bytes
import AccountRelay.Text.Quoted

/-! # Hexadecimal text

`Hex.encode` writes two lower-case digits a byte. `Hex.decode` reads digits of either case and says
what is wrong with any other text: an odd length first, measured in bytes of UTF-8, and then the
first byte that is no digit, with its position.
-/

namespace AccountRelay.Hex

/-- Why a text is not a string of hexadecimal digit pairs. -/
inductive Fault
  /-- The text has an odd number of bytes. -/
  | oddLength
  /-- The byte at this position starts no hexadecimal digit. -/
  | notADigit (byte : UInt8) (position : Nat)
  /-- The digits are sound, but their number is not the one asked for. -/
  | wrongLength
deriving DecidableEq

/-- A fault in words. -/
def Fault.message : Fault → String
  | .oddLength => "Odd number of digits"
  | .notADigit byte position =>
    "Invalid character " ++ Text.quotedChar (Char.ofNat byte.toNat) ++ " at position " ++
      Numeral.decimal position
  | .wrongLength => "Invalid string length"

/-- A fault in words that go on in the middle of a sentence. -/
def Fault.clause : Fault → String
  | .oddLength => "odd number of digits"
  | .notADigit byte position =>
    "invalid character " ++ Text.quotedChar (Char.ofNat byte.toNat) ++ " at position " ++
      Numeral.decimal position
  | .wrongLength => "invalid string length"

/-- Two lower-case digits a byte, the high half first. -/
def encode (bytes : Bytes) : List Char :=
  bytes.flatMap fun byte => [Numeral.digit (byte.toNat / 16), Numeral.digit (byte.toNat % 16)]

/-- The byte string in digits behind the mark `0x`. -/
def marked (bytes : Bytes) : String :=
  String.ofList ('0' :: 'x' :: encode bytes)

/-- The text without one leading `0x`. -/
def unmarked : List Char → List Char
  | '0' :: 'x' :: rest => rest
  | text => text

/-- The text without one leading `0X`. -/
def unmarkedUpper : List Char → List Char
  | '0' :: 'X' :: rest => rest
  | text => text

/-- The text without one leading `0x` or `0X`. -/
def unmarkedEither : List Char → List Char
  | '0' :: 'x' :: rest | '0' :: 'X' :: rest => rest
  | text => text

/-- The first of the bytes that spell a character in UTF-8. -/
def leadingByte (c : Char) : UInt8 :=
  (String.utf8EncodeChar c).headD 0

/-- The number of bytes that spell a text in UTF-8. -/
def byteLength : List Char → Nat
  | [] => 0
  | c :: rest => c.utf8Size + byteLength rest

/-- The values of the digits of a text whose first byte stands at `position`. -/
def digits : Nat → List Char → Except Fault (List Nat)
  | _, [] => .ok []
  | position, c :: rest =>
    match Numeral.hexDigit? c with
    | some value => (digits (position + 1) rest).map (value :: ·)
    | none => .error (.notADigit (leadingByte c) position)

/-- The bytes of consecutive pairs of digit values. -/
def pairs : List Nat → Bytes
  | high :: low :: rest => UInt8.ofNat (16 * high + low) :: pairs rest
  | _ => []

/-- Reads digit pairs of either case. -/
def decode (text : List Char) : Except Fault Bytes :=
  if byteLength text % 2 = 1 then .error .oddLength else (digits 0 text).map pairs

/-- Reads digit pairs behind an optional `0x`. -/
def decodeMarked (text : List Char) : Except Fault Bytes :=
  decode (unmarked text)

/-- Reads exactly `size` bytes of digit pairs behind an optional `0x`. -/
def octets? (size : Nat) (text : List Char) : Option (Octets size) :=
  match decodeMarked text with
  | .ok bytes => Octets.ofBytes? size bytes
  | .error _ => none

/-- Whether a character may stand between digits in a reply or in a document. -/
def isGap (c : Char) : Bool :=
  c = ' ' || c = '\t' || c = '\r' || c = '\n'

/-- Reads digits with gaps among them. Gaps take part in the length but not in the digits: a text of
odd length is read with a zero in front, and a digit without a partner at the end is dropped. -/
def loosely? (text : List Char) : Option Bytes :=
  let even := if text.length % 2 = 0 then text else '0' :: text
  ((even.filter fun c => !isGap c).mapM Numeral.hexDigit?).map pairs

/-- Reads `size` bytes of digits with gaps among them, behind an optional `0x`. The text is as long
as the digits alone would be, so every two gaps stand for a missing byte; zeros at the end stand in
for those. -/
def looseOctets? (size : Nat) (text : List Char) : Option (Octets size) :=
  let digits := unmarked text
  if digits.length = 2 * size then
    (loosely? digits).bind fun bytes =>
      Octets.ofBytes? size (bytes ++ List.replicate (size - bytes.length) 0)
  else none

/-- The two digits of every byte pair up to that byte. -/
theorem pairs_flatMap (bytes : Bytes) :
    pairs (bytes.flatMap fun byte => [byte.toNat / 16, byte.toNat % 16]) = bytes := by
  induction bytes with
  | nil => rfl
  | cons byte rest ih =>
    have whole : 16 * (byte.toNat / 16) + byte.toNat % 16 = byte.toNat := by omega
    simp only [List.flatMap_cons, List.cons_append, List.nil_append, pairs, ih, whole,
      UInt8.ofNat_toNat]

/-- Hexadecimal has two characters a byte. -/
theorem length_encode (bytes : Bytes) : (encode bytes).length = 2 * bytes.length := by
  induction bytes with
  | nil => rfl
  | cons byte rest ih => simp only [encode] at ih; simp [encode, ih]; omega

end AccountRelay.Hex
