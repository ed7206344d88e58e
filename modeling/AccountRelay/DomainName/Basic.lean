import AccountRelay.DomainName.Composition
import AccountRelay.DomainName.Direction
import AccountRelay.DomainName.Joining
import AccountRelay.DomainName.Mapping
import AccountRelay.DomainName.Punycode

/-! # Domain names

A domain name consists of labels with dots between them. `DomainName.understood?` takes a name as
somebody wrote it to the name that is meant, after the rules of Unicode Technical Standard 46 for
names that go out to a server: characters give way to those that they stand for, every label has
its shortest spelling, and a label in Punycode has to stand for one that could be written as well.
-/

namespace AccountRelay.DomainName

/-- Whether a character stands in no name. -/
def isForbidden (c : Char) : Bool :=
  c.toNat ≤ 0x20 || c.toNat == 0x7F || "%#/:<>?@[\\]^|".toList.contains c

/-- What a label in Punycode starts with. -/
def punycodeMark : List Char := ['x', 'n', '-', '-']

/-- The number of characters that a label in Punycode may have behind its mark. -/
def longestSpelling : Nat := 2000

/-- The number of characters that any other label may have, unless all of them are plain. -/
def longestLabel : Nat := 1000

/-- Whether all characters of a text are plain. -/
def isPlain (text : List Char) : Bool :=
  text.all (·.toNat < 0x80)

/-- The text that a name is taken to before its labels are looked at. -/
def spelled? (name : List Char) : Option (List Char) :=
  (mapped? name).map composed

/-- The label that Punycode behind its mark stands for: one that would be taken to itself, and that
is not plain. -/
def decoded? (spelling : List Char) : Option (List Char) :=
  if isPlain spelling ∧ spelling.getLast?.any (· ≠ '-') ∧ spelling.length ≤ longestSpelling then
    (Punycode.decode? spelling).filter fun label =>
      spelled? label = some label && label.all fun c => !isForbidden c && c ≠ '.'
  else none

/-- The label that a label stands for. -/
def meant? (label : List Char) : Option (List Char) :=
  if punycodeMark.isPrefixOf label then decoded? (label.drop punycodeMark.length) else some label

/-- Whether a label can stand in a name by itself: it starts with no mark, its joiners fit, and it
is not too long. -/
def isSound (label : List Char) : Bool :=
  !label.head?.any isMark && joinersFit [] label &&
    (isPlain label || label.length ≤ longestLabel)

/-- Whether labels can stand in one name. When one of them has something from right to left, each
has to keep to one direction. -/
def areSound (labels : List (List Char)) : Bool :=
  labels.all isSound && (!labels.any hasRight || labels.all isOneWay)

/-- The name that is meant. Labels in Punycode stay as they are. -/
def understood? (name : List Char) : Option (List Char) := do
  let name ← spelled? name
  if name.any isForbidden then none
  else
    let labels ← (Text.pieces '.' name).mapM meant?
    if areSound labels then some name else none

end AccountRelay.DomainName
