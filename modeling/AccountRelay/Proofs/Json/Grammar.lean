import AccountRelay.Json.Node
import AccountRelay.Proofs.Numeral

/-! # The grammar of JSON

What a JSON text is, said without reading it. A node is written with a row of tokens
(`Node.WrittenWith`), of which some can be spelled in several ways: most characters of a string as they
are or behind a backslash, an exponent with either letter and with or without a plus sign. A text
spells a node when it is such a row with blanks around the tokens (`LaidOut`, `Spells`), so texts that
differ in the blanks between their tokens spell the same node.
-/

namespace AccountRelay.Json

/-- The characters of one token. -/
abbrev Token := List Char

/-! ## Strings -/

/-- The letters that stand for a character behind a backslash. -/
def escapes : List (Char × Char) :=
  [('"', '"'), ('\\', '\\'), ('/', '/'), ('b', '\x08'), ('f', '\x0c'), ('n', '\n'), ('r', '\r'),
    ('t', '\t')]

/-- How one element of a string is written. -/
inductive Piece.WrittenAs : Piece → List Char → Prop
  | plain {c : Char} (visible : 0x20 ≤ c.toNat) (no_quote : c ≠ '"') (no_backslash : c ≠ '\\') :
    WrittenAs (.char c) [c]
  | escaped {letter c : Char} (named : (letter, c) ∈ escapes) : WrittenAs (.char c) ['\\', letter]
  | unit {first second third fourth : Char} {code : UInt16}
      (denotes : Numeral.Denotes 16 ([first, second, third, fourth].map Char.toLower) code.toNat) :
    WrittenAs (.unit code) ['\\', 'u', first, second, third, fourth]

/-- How the elements of a string are written, one after another. -/
inductive Piece.AllWrittenAs : List Piece → List Char → Prop
  | nil : AllWrittenAs [] []
  | cons {piece : Piece} {pieces : List Piece} {text rest : List Char}
      (first : piece.WrittenAs text) (others : AllWrittenAs pieces rest) :
    AllWrittenAs (piece :: pieces) (text ++ rest)

/-- A string between its quotes. -/
def quoted (text : List Char) : Token :=
  '"' :: (text ++ ['"'])

/-! ## Numbers -/

/-- Whether a text is decimal digits, of which there is at least one. -/
def AreDigits (text : List Char) : Prop :=
  text ≠ [] ∧ ∀ c ∈ text, c.isDigit = true

/-- How the digits behind the point are written. -/
inductive FractionWrittenAs : List Char → List Char → Prop
  | absent : FractionWrittenAs [] []
  | point {digits : List Char} (digital : AreDigits digits) : FractionWrittenAs digits ('.' :: digits)

/-- How an exponent is written. -/
inductive ExponentWrittenAs : Option (Bool × List Char) → List Char → Prop
  | absent : ExponentWrittenAs none []
  | bare {letter : Char} {digits : List Char} (marks : letter = 'e' ∨ letter = 'E')
      (digital : AreDigits digits) : ExponentWrittenAs (some (false, digits)) (letter :: digits)
  | plus {letter : Char} {digits : List Char} (marks : letter = 'e' ∨ letter = 'E')
      (digital : AreDigits digits) : ExponentWrittenAs (some (false, digits)) (letter :: '+' :: digits)
  | minus {letter : Char} {digits : List Char} (marks : letter = 'e' ∨ letter = 'E')
      (digital : AreDigits digits) : ExponentWrittenAs (some (true, digits)) (letter :: '-' :: digits)

/-- How a number is written. Its digits before the point start with a zero only if that is all. -/
inductive Literal.WrittenAs (literal : Literal) : Token → Prop
  | intro {fraction exponent : List Char} (whole : AreDigits literal.whole)
      (no_leading_zero : literal.whole.head? = some '0' → literal.whole = ['0'])
      (fractional : FractionWrittenAs literal.fraction fraction)
      (exponential : ExponentWrittenAs literal.exponent exponent) :
    WrittenAs literal
      ((if literal.negative then ['-'] else []) ++ (literal.whole ++ (fraction ++ exponent)))

/-! ## Values -/

/-- An item of an array with the tokens that it is written with. -/
structure WrittenItem where
  item : Node
  tokens : List Token

/-- A member of an object with what it is written with: the text of its key between the quotes, and the
tokens of its value. -/
structure WrittenMember where
  key : List Piece
  keyText : List Char
  value : Node
  valueTokens : List Token

namespace WrittenMember

/-- The member itself. -/
def member (written : WrittenMember) : List Piece × Node :=
  (written.key, written.value)

/-- The tokens of a member. -/
def tokens (written : WrittenMember) : List Token :=
  quoted written.keyText :: [':'] :: written.valueTokens

end WrittenMember

/-- Rows of tokens with commas between them. -/
def listed : List (List Token) → List Token
  | [] => []
  | [row] => row
  | row :: rows => row ++ [','] :: listed rows

/-- The tokens that a node is written with. -/
inductive Node.WrittenWith : Node → List Token → Prop
  | null : WrittenWith .null [['n', 'u', 'l', 'l']]
  | bool (value : Bool) :
    WrittenWith (.bool value) [if value then ['t', 'r', 'u', 'e'] else ['f', 'a', 'l', 's', 'e']]
  | number {literal : Literal} {token : Token} (written : literal.WrittenAs token) :
    WrittenWith (.number literal) [token]
  | string {pieces : List Piece} {text : List Char} (written : Piece.AllWrittenAs pieces text) :
    WrittenWith (.string pieces) [quoted text]
  | array {items : List WrittenItem} (written : ∀ item ∈ items, item.item.WrittenWith item.tokens) :
    WrittenWith (.array (items.map WrittenItem.item))
      (['['] :: (listed (items.map WrittenItem.tokens) ++ [[']']]))
  | object {members : List WrittenMember}
      (keys_written : ∀ member ∈ members, Piece.AllWrittenAs member.key member.keyText)
      (written : ∀ member ∈ members, member.value.WrittenWith member.valueTokens) :
    WrittenWith (.object (members.map WrittenMember.member))
      (['{'] :: (listed (members.map WrittenMember.tokens) ++ [['}']]))

/-! ## Texts -/

/-- Whether a text is blank. -/
def Blank (text : List Char) : Prop :=
  ∀ c ∈ text, c ∈ [' ', '\t', '\n', '\r']

/-- Whether a text is a row of tokens, with blanks in front of each and behind the last. -/
def LaidOut : List Token → List Char → Prop
  | [], text => Blank text
  | token :: tokens, text =>
    ∃ blanks rest, Blank blanks ∧ text = blanks ++ (token ++ rest) ∧ LaidOut tokens rest

/-- Whether a text spells a node. -/
def Spells (text : List Char) (node : Node) : Prop :=
  ∃ tokens, node.WrittenWith tokens ∧ LaidOut tokens text

end AccountRelay.Json
