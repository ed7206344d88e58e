import AccountRelay.Decimal.Shortest
import AccountRelay.Json.Node

/-! # JSON values

A `Value` is what a JSON document means when all of it is wanted: numbers in range, strings of
characters, and objects whose members are in the order of their keys with one member a key.
`Value.ofNode?` takes the meaning of a node. A key that is repeated keeps its last value; a string
with half a surrogate pair, a number beyond double precision and nesting deeper than 127 levels have
no meaning.
-/

namespace AccountRelay.Json

/-- A number: an integer of 64 bits, signed or unsigned, or a number of double precision. -/
inductive Number
  | integer (value : Int)
  | float (negative : Bool) (magnitude : Binary64)
deriving DecidableEq

/-- A JSON document whose every part has a meaning. -/
inductive Value
  | null
  | bool (value : Bool)
  | number (value : Number)
  | string (text : String)
  | array (items : List Value)
  | object (members : List (String × Value))

instance : Inhabited Value := ⟨.null⟩

/-- The members with one put at its place among keys in ascending order, instead of a member of the
same key. -/
def insertMember (key : String) (value : Value) : List (String × Value) → List (String × Value)
  | [] => [(key, value)]
  | (other, present) :: rest =>
    if key < other then (key, value) :: (other, present) :: rest
    else if key = other then (key, value) :: rest
    else (other, present) :: insertMember key value rest

/-- The object with the given members, the last one of a key counting. -/
def Value.ofMembers (members : List (String × Value)) : Value :=
  .object (members.foldl (fun sorted (key, value) => insertMember key value sorted) [])

/-- The member of an object under a key. -/
def Value.get? (value : Value) (key : String) : Option Value :=
  match value with
  | .object members => members.lookup key
  | _ => none

/-- The text of a string. -/
def Value.text? : Value → Option String
  | .string text => some text
  | _ => none

/-- The truth value. -/
def Value.bool? : Value → Option Bool
  | .bool value => some value
  | _ => none

/-- The integer, if it has at most 63 bits and a sign. -/
def Value.int64? : Value → Option Int
  | .number (.integer value) => if value ≤ Int64.maxValue.toInt then some value else none
  | _ => none

/-- Whether the value is `null`. -/
def Value.isNull : Value → Bool
  | .null => true
  | _ => false

/-- Takes digits up into a number as far as it stays below two to the 64th power. Gives the number
and the digits that are left. -/
def taken (number : Nat) : List Char → Nat × List Char
  | [] => (number, [])
  | c :: rest =>
    let longer := number * 10 + digitsValue [c]
    if longer < UInt64.size then taken longer rest else (number, c :: rest)

/-- The magnitude of double precision that a literal means, if there is one: the leading digits as
far as they fit in 64 bits, multiplied by a power of ten. Digits before the point that do not fit
count as zeros, those behind it not at all. -/
def Literal.magnitude? (literal : Literal) : Option Binary64 :=
  let (whole, beyond) := taken 0 literal.whole
  let (digits, ignored) := taken whole literal.fraction
  let exponent : Int := match literal.exponent with
    | some (true, digits) => -(digitsValue digits : Int)
    | some (false, digits) => digitsValue digits
    | none => 0
  (Binary64.nearest digits 1).bind fun magnitude =>
    magnitude.timesTen (exponent + beyond.length - (literal.fraction.length - ignored.length))

/-- The number that a literal means: an integer when it is written with digits only, fits in 64 bits
and is not the zero with a sign; otherwise a number of double precision, if there is one. -/
def Literal.number? (literal : Literal) : Option Number :=
  let whole := digitsValue literal.whole
  if literal.isWhole && !literal.negative && decide (whole < UInt64.size) then some (.integer whole)
  else if literal.isWhole && literal.negative && decide (0 < whole) &&
      decide (Int64.minValue.toInt ≤ -(whole : Int)) then
    some (.integer (-whole))
  else literal.magnitude?.map (.float literal.negative)

mutual

/-- The meaning of a node with at most `depth` levels of arrays and objects. -/
def Value.ofNodeWithin? (depth : Nat) : Node → Option Value
  | .null => some .null
  | .bool value => some (.bool value)
  | .number literal => literal.number?.map .number
  | .string text => (Piece.text? text).map .string
  | .array items =>
    match depth with
    | 0 => none
    | depth + 1 => (Value.ofItems? depth items).map .array
  | .object members =>
    match depth with
    | 0 => none
    | depth + 1 => (Value.ofNodeMembers? depth members).map Value.ofMembers

/-- The meanings of the items of an array. -/
def Value.ofItems? (depth : Nat) : List Node → Option (List Value)
  | [] => some []
  | item :: rest => do
    let value ← Value.ofNodeWithin? depth item
    let values ← Value.ofItems? depth rest
    return value :: values

/-- The meanings of the members of an object, in the order of the text. -/
def Value.ofNodeMembers? (depth : Nat) : List (List Piece × Node) → Option (List (String × Value))
  | [] => some []
  | (key, item) :: rest => do
    let key ← Piece.text? key
    let value ← Value.ofNodeWithin? depth item
    let members ← Value.ofNodeMembers? depth rest
    return (key, value) :: members

end

/-- The meaning of a node. -/
def Value.ofNode? (node : Node) : Option Value :=
  Value.ofNodeWithin? 127 node

end AccountRelay.Json
