/-! # Punycode

A label with characters beyond the English letters is spelled with such letters, digits and hyphens
alone (RFC 3492): first come the plain characters, and behind the last hyphen numbers that tell
which other character goes where. `Punycode.decode?` reads that spelling.
-/

namespace AccountRelay.DomainName.Punycode

/-- The number of digits. -/
def radix : Nat := 36

/-- The value below which every digit may be the last one of its number. -/
def mostThreshold : Nat := 26

/-- What the first number of a label is divided by before a bias is taken from it. -/
def firstDamping : Nat := 700

/-- How slowly the bias grows with a number. -/
def skew : Nat := 38

/-- The bias of the first number. -/
def firstBias : Nat := 72

/-- The least code point that is not plain, where counting starts. -/
def firstCode : Nat := 128

/-- The value of a digit: the letters come first. -/
def digit? (c : Char) : Option Nat :=
  if 'a' ≤ c ∧ c ≤ 'z' then some (c.toNat - 'a'.toNat)
  else if '0' ≤ c ∧ c ≤ '9' then some (c.toNat - '0'.toNat + 26)
  else none

/-- The value from which on a digit is not the last one of its number. -/
def threshold (place bias : Nat) : Nat :=
  if place ≤ bias then 1
  else if bias + mostThreshold ≤ place then mostThreshold
  else place - bias

/-- Reads a number and adds it to a sum: the lowest digit comes first, and how much the next one
counts hangs on the digit and its place. Numbers have 32 bits. Gives the sum and what follows. -/
def number? (bias : Nat) : Nat → Nat → Nat → List Char → Option (Nat × List Char)
  | _, _, _, [] => none
  | place, weight, sum, c :: rest =>
    match digit? c with
    | none => none
    | some digit =>
      let sum := sum + digit * weight
      let least := threshold place bias
      let heavier := weight * (radix - least)
      if UInt32.size ≤ sum then none
      else if digit < least then some (sum, rest)
      else if UInt32.size ≤ heavier then none
      else number? bias (place + radix) heavier sum rest

/-- Divides until a small number is left: at most 455, which is half of 26 times 35. Gives it and
the places it is short of. -/
def reduced (place number : Nat) : Nat × Nat :=
  if _large : 455 < number then reduced (place + radix) (number / 35) else (place, number)
termination_by number
decreasing_by exact Nat.div_lt_self (by omega) (by omega)

/-- The bias behind a number, when there are `count` characters. -/
def adapted (number count : Nat) (isFirst : Bool) : Nat :=
  let damped := if isFirst then number / firstDamping else number / 2
  let (place, rest) := reduced 0 (damped + damped / count)
  place + radix * rest / (rest + skew)

/-- The character of a code point, if it has one. -/
def character? (code : Nat) : Option Char :=
  if code < 0xD800 ∨ (0xDFFF < code ∧ code < 0x110000) then some (Char.ofNat code) else none

/-- Puts characters into a text, each at the place that a number tells. The count bounds how many
there can be. -/
def insertions? : Nat → (code place bias : Nat) → (text : List Char) → List Char →
    Option (List Char)
  | _, _, _, _, text, [] => some text
  | 0, _, _, _, _, _ => none
  | count + 1, code, place, bias, text, digits => do
    let (sum, rest) ← number? bias radix 1 place digits
    let size := text.length + 1
    let code := code + sum / size
    let here := sum % size
    let c ← character? code
    insertions? count code (here + 1) (adapted (sum - place) size (place = 0))
      (text.insertIdx here c) rest

/-- The label that is spelled by a text. -/
def decode? (text : List Char) : Option (List Char) :=
  match text.reverse.dropWhile (· ≠ '-') with
  | [] => insertions? text.length firstCode 0 firstBias [] text
  | _ :: plain =>
    if plain.isEmpty then none
    else
      insertions? text.length firstCode 0 firstBias plain.reverse
        (text.reverse.takeWhile (· ≠ '-')).reverse

end AccountRelay.DomainName.Punycode
