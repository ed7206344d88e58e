import AccountRelay.Json.Node

/-! # Reading JSON

`Json.read` takes a whole text to the node it spells, or to nothing when the text is no JSON. Each
step leaves a shorter text, so the length of the text bounds the depth of the recursion.
-/

namespace AccountRelay.Json

/-- The characters that may stand between two tokens. -/
def isSpace (c : Char) : Bool :=
  c == ' ' || c == '\n' || c == '\t' || c == '\r'

/-- The text from its next token on. -/
def skipSpace (text : List Char) : List Char :=
  text.dropWhile isSpace

/-- The text behind a fixed word. -/
def after? (word : List Char) (text : List Char) : Option (List Char) :=
  if word.isPrefixOf text then some (text.drop word.length) else none

/-- The digits at the front of a text, of which there has to be at least one. -/
def someDigits? (text : List Char) : Option (List Char × List Char) :=
  match text.takeWhile Char.isDigit with
  | [] => none
  | digits => some (digits, text.dropWhile Char.isDigit)

/-- The digits before the point: one zero alone, or digits that start with no zero. -/
def readWhole? (text : List Char) : Option (List Char × List Char) :=
  match someDigits? text with
  | some ('0' :: _ :: _, _) => none
  | found => found

/-- The digits behind a point, if there is one. -/
def readFraction? : List Char → Option (List Char × List Char)
  | '.' :: rest => someDigits? rest
  | text => some ([], text)

/-- The sign and the digits behind an `e`, if there is one. -/
def readExponent? : List Char → Option (Option (Bool × List Char) × List Char)
  | c :: rest =>
    if c == 'e' || c == 'E' then
      let signed : Bool × List Char :=
        match rest with
        | '-' :: digits => (true, digits)
        | '+' :: digits => (false, digits)
        | digits => (false, digits)
      (someDigits? signed.2).map fun (digits, rest) => (some (signed.1, digits), rest)
    else some (none, c :: rest)
  | [] => some (none, [])

/-- A number at the front of a text. -/
def readNumber? (text : List Char) : Option (Literal × List Char) := do
  let (negative, unsigned) := match text with
    | '-' :: rest => (true, rest)
    | _ => (false, text)
  let (whole, rest) ← readWhole? unsigned
  let (fraction, rest) ← readFraction? rest
  let (exponent, rest) ← readExponent? rest
  return (⟨negative, whole, fraction, exponent⟩, rest)

/-- The code unit that four hexadecimal digits name. -/
def codeUnit? (a b c d : Char) : Option UInt16 := do
  let digits ← [a, b, c, d].mapM Numeral.hexDigit?
  return UInt16.ofNat (Numeral.value 16 digits)

/-- The character that stands for itself behind a backslash, or that a letter there stands for. -/
def escape? : Char → Option Char
  | '"' => some '"'
  | '\\' => some '\\'
  | '/' => some '/'
  | 'b' => some '\x08'
  | 'f' => some '\x0c'
  | 'n' => some '\n'
  | 'r' => some '\r'
  | 't' => some '\t'
  | _ => none

/-- The pieces of a string whose opening quote has been read, and the text behind its closing
quote. -/
def readString? : List Char → Option (List Piece × List Char)
  | [] => none
  | '"' :: rest => some ([], rest)
  | '\\' :: 'u' :: a :: b :: c :: d :: rest => do
    let code ← codeUnit? a b c d
    let (pieces, rest) ← readString? rest
    return (.unit code :: pieces, rest)
  | '\\' :: c :: rest => do
    let c ← escape? c
    let (pieces, rest) ← readString? rest
    return (.char c :: pieces, rest)
  | c :: rest =>
    if c.toNat < 0x20 || c == '\\' then none
    else do
      let (pieces, rest) ← readString? rest
      return (.char c :: pieces, rest)

mutual

/-- A value at the front of a text that starts with a token. -/
def readValue? : Nat → List Char → Option (Node × List Char)
  | 0, _ => none
  | fuel + 1, text =>
    match text with
    | '"' :: rest => do
      let (pieces, rest) ← readString? rest
      return (.string pieces, rest)
    | '[' :: rest =>
      match skipSpace rest with
      | ']' :: rest => some (.array [], rest)
      | rest => do
        let (items, rest) ← readItems? fuel rest
        return (.array items, rest)
    | '{' :: rest =>
      match skipSpace rest with
      | '}' :: rest => some (.object [], rest)
      | rest => do
        let (members, rest) ← readMembers? fuel rest
        return (.object members, rest)
    | 't' :: rest => (after? ['r', 'u', 'e'] rest).map (.bool true, ·)
    | 'f' :: rest => (after? ['a', 'l', 's', 'e'] rest).map (.bool false, ·)
    | 'n' :: rest => (after? ['u', 'l', 'l'] rest).map (.null, ·)
    | text => do
      let (literal, rest) ← readNumber? text
      return (.number literal, rest)

/-- The items of an array from the first on, and the text behind its closing bracket. -/
def readItems? : Nat → List Char → Option (List Node × List Char)
  | 0, _ => none
  | fuel + 1, text => do
    let (item, rest) ← readValue? fuel text
    match skipSpace rest with
    | ']' :: rest => return ([item], rest)
    | ',' :: rest =>
      let (items, rest) ← readItems? fuel (skipSpace rest)
      return (item :: items, rest)
    | _ => none

/-- The members of an object from the first on, and the text behind its closing brace. -/
def readMembers? : Nat → List Char → Option (List (List Piece × Node) × List Char)
  | 0, _ => none
  | fuel + 1, '"' :: text => do
    let (key, rest) ← readString? text
    match skipSpace rest with
    | ':' :: rest =>
      let (value, rest) ← readValue? fuel (skipSpace rest)
      match skipSpace rest with
      | '}' :: rest => return ([(key, value)], rest)
      | ',' :: rest =>
        let (members, rest) ← readMembers? fuel (skipSpace rest)
        return ((key, value) :: members, rest)
      | _ => none
    | _ => none
  | _ + 1, _ => none

end

/-- The node that a whole text spells. -/
def read (text : List Char) : Option Node :=
  match readValue? (text.length + 1) (skipSpace text) with
  | some (node, rest) => if (skipSpace rest).isEmpty then some node else none
  | none => none

end AccountRelay.Json
