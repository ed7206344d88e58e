import AccountRelay.DomainName.MappingTable
import AccountRelay.Numeral
import AccountRelay.Text.Blank
import AccountRelay.Text.Pieces

/-! # Characters of domain names

A name may be written with characters that stand for others: capital letters for small ones, wide
digits for plain ones, ligatures for their letters. `DomainName.mapped?` puts those in place, and
has no answer for a name with a character that stands in no name.
-/

namespace AccountRelay.DomainName

/-- What becomes of a character. -/
inductive Fate
  /-- It gives way to others, or to nothing. -/
  | replaced (codes : List Nat)
  | refused
deriving DecidableEq

/-- The code points from `first` to `last` in steps, and what becomes of them. -/
structure MappingEntry where
  first : Nat
  last : Nat
  step : Nat
  fate : Fate
deriving DecidableEq

namespace MappingEntry

/-- The number in hexadecimal digits. -/
def code? (digits : List Char) : Option Nat :=
  (digits.mapM Numeral.hexDigit?).map (Numeral.value 16)

/-- The code points that an entry is about, with a fate. -/
def about? (codes : List Char) (fate : Fate) : Option MappingEntry :=
  match Text.pieces '-' codes, Text.pieces ':' codes with
  | [first, last], _ => do return ⟨← code? first, ← code? last, 1, fate⟩
  | _, [first, last] => do return ⟨← code? first, ← code? last, 2, fate⟩
  | _, _ => do return ⟨← code? codes, ← code? codes, 1, fate⟩

/-- Reads an entry of the table. -/
def read? (text : List Char) : Option MappingEntry :=
  match Text.pieces '>' text, Text.pieces '!' text with
  | [codes, []], _ => about? codes (.replaced [])
  | [codes, targets], _ => do about? codes (.replaced (← (Text.pieces ',' targets).mapM code?))
  | _, [codes, []] => about? codes .refused
  | _, _ => none

/-- What becomes of a code point, if the entry is about it. A range goes to a range. -/
def fate? (entry : MappingEntry) (code : Nat) : Option Fate :=
  if entry.first ≤ code ∧ code ≤ entry.last ∧ (code - entry.first) % entry.step = 0 then
    match entry.fate with
    | .replaced [target] => some (.replaced [target + (code - entry.first)])
    | fate => some fate
  else none

end MappingEntry

/-- The words of a text between blanks. -/
def words (text : List Char) : List (List Char) :=
  (Text.pieces ' ' (text.map fun c => if Text.isBlank c then ' ' else c)).filter (!·.isEmpty)

/-- The entries of the table. -/
def mapping : Array MappingEntry :=
  ((words mappingTable.toList).filterMap MappingEntry.read?).toArray

/-- What becomes of a character. Without an entry it stays. -/
def fate? (c : Char) : Option Fate :=
  mapping.findSome? fun entry => entry.fate? c.toNat

/-- The characters that a character stands for, if it may stand in a name. -/
def image? (c : Char) : Option (List Char) :=
  match fate? c with
  | some (.replaced codes) => some (codes.map Char.ofNat)
  | some .refused => none
  | none => some [c]

/-- A name with every character replaced by those that it stands for. -/
def mapped? (name : List Char) : Option (List Char) :=
  (name.mapM image?).map List.flatten

end AccountRelay.DomainName
