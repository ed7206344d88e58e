import AccountRelay.Bytes
import AccountRelay.DomainName.Basic
import AccountRelay.Hex
import AccountRelay.Text.Pieces

/-! # Hosts of URLs

A host is a name, a number of 32 bits in up to four parts, or groups of digits in brackets. A name
whose last part is a number has to be an address as a whole. The checks here say whether a text is a
host and, if it is none, what is wrong with it.
-/

namespace AccountRelay

/-- Why a text is no URL. -/
inductive UrlFault
  /-- There is no scheme in front. -/
  | relative
  | emptyHost
  | port
  | ipv4
  | ipv6
  /-- A character that stands in no host. -/
  | hostCharacter
  /-- A name that is none. -/
  | domainName
deriving DecidableEq

/-- A fault of a URL in words. -/
def UrlFault.message : UrlFault → String
  | .relative => "relative URL without a base"
  | .emptyHost => "empty host"
  | .port => "invalid port number"
  | .ipv4 => "invalid IPv4 address"
  | .ipv6 => "invalid IPv6 address"
  | .hostCharacter => "invalid domain character"
  | .domainName => "invalid international domain name"

namespace Url

/-- The value of digits in a base, if all of them are digits of it. -/
def numberIn? (base : Nat) (digits : List Char) : Option Nat := do
  let values ← digits.mapM Numeral.hexDigit?
  if values.all (· < base) then return Numeral.value base values else none

/-- The number that a part of a name is: in base 16 behind `0x`, in base 8 behind `0`, otherwise in
base 10. Without digits behind a mark the number is zero. -/
def partNumber? : List Char → Option Nat
  | [] => none
  | '0' :: 'x' :: digits | '0' :: 'X' :: digits => numberIn? 16 digits
  | ['0'] => some 0
  | '0' :: digits => numberIn? 8 digits
  | digits => numberIn? 10 digits

/-- The parts of a name, last one first, without the empty one behind a dot at the end. -/
def partsReversed (name : List Char) : List (List Char) :=
  match (Text.pieces '.' name).reverse with
  | [] :: rest => rest
  | parts => parts

/-- Whether the last part of a name is a number, or digits that would be one. -/
def endsInNumber (name : List Char) : Bool :=
  match partsReversed name with
  | [] => false
  | last :: _ => (!last.isEmpty && last.all Char.isDigit) || (partNumber? last).isSome

/-- Whether a name is an address of 32 bits: up to four numbers, each one byte but for the last,
which fills what is left. -/
def isIpv4 (name : List Char) : Bool :=
  match (partsReversed name).mapM partNumber? with
  | some (last :: others) =>
    others.length ≤ 3 && others.all (· < 256) && last < 256 ^ (4 - others.length)
  | _ => false

/-- Whether a text is one byte in decimal without leading zeros. -/
def isDecimalByte (text : List Char) : Bool :=
  match text with
  | '0' :: _ :: _ => false
  | _ => !text.isEmpty && ((numberIn? 10 text).any (· < 256))

/-- Whether a text is four bytes in decimal. -/
def isDottedQuad (text : List Char) : Bool :=
  let parts := Text.pieces '.' text
  parts.length == 4 && parts.all isDecimalByte

/-- Whether a text is a group of one to four hexadecimal digits. -/
def isGroup (text : List Char) : Bool :=
  1 ≤ text.length && text.length ≤ 4 && (numberIn? 16 text).isSome

/-- The number of groups in a text of groups between colons; with `quad`, four bytes in decimal at
the end count as two. -/
def groupCount? (quad : Bool) (text : List Char) : Option Nat :=
  if text.isEmpty then some 0
  else
    match (Text.pieces ':' text).reverse with
    | [] => none
    | last :: others =>
      if others.all isGroup then
        if isGroup last then some (others.length + 1)
        else if quad && isDottedQuad last then some (others.length + 2)
        else none
      else none

/-- A text in front of and behind the first two colons in a row. -/
def aroundGap? : List Char → Option (List Char × List Char)
  | [] => none
  | ':' :: ':' :: rest => some ([], rest)
  | c :: rest => (aroundGap? rest).map fun (front, back) => (c :: front, back)

/-- Whether a text is eight groups, or fewer with a gap somewhere among them. -/
def isIpv6 (text : List Char) : Bool :=
  match aroundGap? text with
  | none => groupCount? true text == some 8
  | some (front, back) =>
    match groupCount? false front, groupCount? true back with
    | some before, some behind => before + behind ≤ 7
    | _, _ => false

/-- The bytes of a text, with `%` and two digits standing for the byte with that number. -/
def percentDecoded : List Char → Bytes
  | [] => []
  | '%' :: high :: low :: rest =>
    match Numeral.hexDigit? high, Numeral.hexDigit? low with
    | some first, some second => UInt8.ofNat (16 * first + second) :: percentDecoded rest
    | _, _ => 0x25 :: percentDecoded (high :: low :: rest)
  | c :: rest => Bytes.ofText (String.ofList [c]) ++ percentDecoded rest
termination_by text => text.length

/-- Whether a character stands in no host of a scheme without rules for names. -/
def isForbiddenInHost (c : Char) : Bool :=
  "\x00\t\n\r #/:<>?@[\\]^|".toList.contains c

/-- Checks the host in brackets. -/
def checkBracketed (host : List Char) : Except UrlFault Unit :=
  match host.reverse with
  | ']' :: inside => if isIpv6 inside.reverse.tail then .ok () else .error .ipv6
  | _ => .error .ipv6

/-- Checks a host of a scheme that leads to a server by its name. -/
def checkHost (host : List Char) : Except UrlFault Unit :=
  if host.head? = some '[' then checkBracketed host
  else
    match (Bytes.text? (percentDecoded host)).bind fun name =>
        DomainName.understood? name.toList with
    | none => .error .domainName
    | some name =>
      if name.isEmpty then .error .emptyHost
      else if endsInNumber name && !isIpv4 name then .error .ipv4
      else .ok ()

/-- Checks a host of any other scheme. -/
def checkOpaqueHost (host : List Char) : Except UrlFault Unit :=
  if host.head? = some '[' then checkBracketed host
  else if host.any isForbiddenInHost then .error .hostCharacter
  else .ok ()

end Url

end AccountRelay
