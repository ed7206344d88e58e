import AccountRelay.Numeral

/-! # JSON documents as they are written

A `Node` is what a JSON text says before anyone asks what it means: numbers keep their digits,
strings keep their escapes, and the members of an object keep their order, repeated keys included.
Reading a text into a node (`AccountRelay.Json.Reader`) therefore refuses only what is no JSON at
all. What a document means to its reader is decided node by node, which is how a value that nobody
asks for may hold a number of any size or an escape that names no character.
-/

namespace AccountRelay.Json

/-- One element of a string: a character, or an escape `\u` with the code unit it names. -/
inductive Piece
  | char (c : Char)
  | unit (code : UInt16)
deriving DecidableEq

/-- The digits of a number as they are written. -/
structure Literal where
  negative : Bool := false
  /-- The digits before the point. -/
  whole : List Char
  /-- The digits behind the point; none when there is no point. -/
  fraction : List Char := []
  /-- Whether the exponent is negative, and its digits. -/
  exponent : Option (Bool × List Char) := none
deriving DecidableEq

/-- A JSON text, parsed. -/
inductive Node
  | null
  | bool (value : Bool)
  | number (literal : Literal)
  | string (text : List Piece)
  | array (items : List Node)
  | object (members : List (List Piece × Node))

/-- The pieces of a text without escapes of code units. -/
def Piece.ofText (text : String) : List Piece :=
  text.toList.map .char

/-- The character that a surrogate pair of code units names. -/
def surrogatePair? (high low : UInt16) : Option Char :=
  if 0xD800 ≤ high ∧ high < 0xDC00 ∧ 0xDC00 ≤ low ∧ low < 0xE000 then
    some (Char.ofNat (0x10000 + (high.toNat - 0xD800) * 0x400 + (low.toNat - 0xDC00)))
  else none

/-- The characters of a string, if every escape of a code unit names one, alone or as the half of a
pair. -/
def Piece.characters? : List Piece → Option (List Char)
  | [] => some []
  | .char c :: rest => (characters? rest).map (c :: ·)
  | .unit code :: rest =>
    if code < 0xD800 ∨ 0xE000 ≤ code then
      (characters? rest).map (Char.ofNat code.toNat :: ·)
    else
      match rest with
      | .unit low :: rest =>
        match surrogatePair? code low with
        | some c => (characters? rest).map (c :: ·)
        | none => none
      | _ => none

/-- The text of a string, if it names characters only. -/
def Piece.text? (pieces : List Piece) : Option String :=
  (characters? pieces).map String.ofList

/-- A text as a node. -/
def Node.ofText (text : String) : Node :=
  .string (Piece.ofText text)

/-- A natural number as a node. -/
def Node.ofNat (number : Nat) : Node :=
  .number ⟨false, Numeral.render 10 number, [], none⟩

/-- Whether a number is written with digits only. -/
def Literal.isWhole (literal : Literal) : Bool :=
  literal.fraction.isEmpty && literal.exponent.isNone

/-- The number that decimal digits denote. -/
def digitsValue (digits : List Char) : Nat :=
  Numeral.value 10 (digits.filterMap Numeral.decimalDigit?)

/-- The natural number written with digits only and below a bound. -/
def Literal.below? (bound : Nat) (literal : Literal) : Option Nat :=
  if literal.negative || !literal.isWhole then none
  else
    let number := digitsValue literal.whole
    if number < bound then some number else none

/-- A text is the one its pieces spell. -/
theorem Piece.text?_ofText (text : String) : text? (ofText text) = some text := by
  have chars (cs : List Char) : characters? (cs.map .char) = some cs := by
    induction cs with
    | nil => rfl
    | cons c rest ih => simp [characters?, ih]
  simp [text?, ofText, chars]

end AccountRelay.Json
