import AccountRelay.Json.Value

/-! # Writing JSON

`Value.compact` writes a value without any blanks; `Node.pretty` writes a document with one member
or item a line, two blanks for each level and the members in the order they are given. In strings
the quote, the backslash and the control characters are escaped, and nothing else.
-/

namespace AccountRelay.Json

/-- A character inside a string. -/
def escapedChar (c : Char) : List Char :=
  if c = '"' then ['\\', '"']
  else if c = '\\' then ['\\', '\\']
  else if c = '\x08' then ['\\', 'b']
  else if c = '\x0c' then ['\\', 'f']
  else if c = '\n' then ['\\', 'n']
  else if c = '\r' then ['\\', 'r']
  else if c = '\t' then ['\\', 't']
  else if c.toNat < 0x20 then
    ['\\', 'u', '0', '0', Numeral.digit (c.toNat / 16), Numeral.digit (c.toNat % 16)]
  else [c]

/-- A text as a string. -/
def quoteText (text : List Char) : List Char :=
  '"' :: text.flatMap escapedChar ++ ['"']

/-- One element of a string as it is written. -/
def Piece.render : Piece → List Char
  | .char c => escapedChar c
  | .unit code =>
    let digit (place : Nat) := Numeral.digit (code.toNat / place % 16)
    ['\\', 'u', digit 0x1000, digit 0x100, digit 0x10, digit 1]

/-- A string as it is written. -/
def quotePieces (pieces : List Piece) : List Char :=
  '"' :: pieces.flatMap Piece.render ++ ['"']

/-- A number as it is written. -/
def Literal.render (literal : Literal) : List Char :=
  let sign := if literal.negative then ['-'] else []
  let fraction := if literal.fraction.isEmpty then [] else '.' :: literal.fraction
  let exponent := match literal.exponent with
    | some (negative, digits) => 'e' :: (if negative then ['-'] else []) ++ digits
    | none => []
  sign ++ literal.whole ++ fraction ++ exponent

/-- A number in decimal. -/
def Number.render : Number → List Char
  | .integer value =>
    (if value < 0 then ['-'] else []) ++ Numeral.render 10 value.natAbs
  | .float negative magnitude =>
    (if negative then ['-'] else []) ++ magnitude.toText.toList

mutual

/-- A value without blanks. -/
def Value.compact : Value → List Char
  | .null => ['n', 'u', 'l', 'l']
  | .bool true => ['t', 'r', 'u', 'e']
  | .bool false => ['f', 'a', 'l', 's', 'e']
  | .number value => value.render
  | .string text => quoteText text.toList
  | .array items => '[' :: Value.compactItems items
  | .object members => '{' :: Value.compactMembers members

/-- The items of an array and its closing bracket. -/
def Value.compactItems : List Value → List Char
  | [] => [']']
  | [item] => item.compact ++ [']']
  | item :: rest => item.compact ++ ',' :: Value.compactItems rest

/-- The members of an object and its closing brace. -/
def Value.compactMembers : List (String × Value) → List Char
  | [] => ['}']
  | [(key, value)] => quoteText key.toList ++ ':' :: value.compact ++ ['}']
  | (key, value) :: rest =>
    quoteText key.toList ++ ':' :: value.compact ++ ',' :: Value.compactMembers rest

end

/-- A value without blanks, as text. -/
def Value.toText (value : Value) : String :=
  String.ofList value.compact

/-- The line break in front of a token at a level. -/
def lineBreak (level : Nat) : List Char :=
  '\n' :: List.replicate (2 * level) ' '

mutual

/-- A document inside `level` levels of arrays and objects. -/
def Node.prettyAt (level : Nat) : Node → List Char
  | .null => ['n', 'u', 'l', 'l']
  | .bool true => ['t', 'r', 'u', 'e']
  | .bool false => ['f', 'a', 'l', 's', 'e']
  | .number literal => literal.render
  | .string text => quotePieces text
  | .array [] => ['[', ']']
  | .array (item :: rest) => '[' :: Node.prettyItems (level + 1) (item :: rest)
  | .object [] => ['{', '}']
  | .object (member :: rest) => '{' :: Node.prettyMembers (level + 1) (member :: rest)

/-- The items of an array, each on a line of its own, and its closing bracket. -/
def Node.prettyItems (level : Nat) : List Node → List Char
  | [] => lineBreak (level - 1) ++ [']']
  | [item] => lineBreak level ++ item.prettyAt level ++ lineBreak (level - 1) ++ [']']
  | item :: rest => lineBreak level ++ item.prettyAt level ++ ',' :: Node.prettyItems level rest

/-- The members of an object, each on a line of its own, and its closing brace. -/
def Node.prettyMembers (level : Nat) : List (List Piece × Node) → List Char
  | [] => lineBreak (level - 1) ++ ['}']
  | [(key, item)] =>
    lineBreak level ++ quotePieces key ++ ':' :: ' ' :: item.prettyAt level ++
      lineBreak (level - 1) ++ ['}']
  | (key, item) :: rest =>
    lineBreak level ++ quotePieces key ++ ':' :: ' ' :: item.prettyAt level ++
      ',' :: Node.prettyMembers level rest

end

/-- A document with one item or member a line. -/
def Node.pretty (node : Node) : String :=
  String.ofList (node.prettyAt 0)

end AccountRelay.Json
