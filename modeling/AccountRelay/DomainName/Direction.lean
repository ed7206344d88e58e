import AccountRelay.DomainName.Mark

/-! # Directions of writing

Characters are written from left to right or from right to left; digits, signs and marks follow
their neighbours. A name with characters of both directions could be read in two ways, so each of
its labels has to keep to one direction (`isOneWay`, after RFC 5893).
-/

namespace AccountRelay.DomainName

/-- How a character is written. -/
inductive Direction
  | left
  | right
  | plainDigit
  | arabicDigit
  /-- A mark that takes no room. -/
  | mark
  /-- A sign that goes both ways. -/
  | neutral
  /-- A blank, which stands in no label with characters from right to left. -/
  | blank
deriving DecidableEq

/-- The closed ranges of code points that are written from right to left, in Unicode 17. All tables
here tell the truth about the characters that stand in names. -/
def rightRanges : Array (Nat × Nat) := #[
  (0x5BE, 0x5BE), (0x5C0, 0x5C0), (0x5C3, 0x5C3), (0x5C6, 0x5C6), (0x5D0, 0x5F4), (0x608, 0x608),
  (0x60B, 0x60B), (0x60D, 0x60D), (0x61B, 0x64A), (0x66D, 0x66F), (0x671, 0x6D5), (0x6E5, 0x6E6),
  (0x6EE, 0x6EF), (0x6FA, 0x710), (0x712, 0x72F), (0x74D, 0x7A5), (0x7B1, 0x7EA), (0x7F4, 0x7F5),
  (0x7FA, 0x7FA), (0x7FE, 0x815), (0x81A, 0x81A), (0x824, 0x824), (0x828, 0x828), (0x830, 0x858),
  (0x85E, 0x88F), (0x8A0, 0x8C9), (0xFBB2, 0xFBC2), (0xFE73, 0xFE73), (0x10800, 0x1091B),
  (0x10920, 0x10A00), (0x10A10, 0x10A35), (0x10A40, 0x10AE4), (0x10AEB, 0x10B35),
  (0x10B40, 0x10D23), (0x10D4A, 0x10D4F), (0x10D6F, 0x10D8F), (0x10E80, 0x10EA9),
  (0x10EAD, 0x10EC7), (0x10F00, 0x10F45), (0x10F51, 0x10F81), (0x10F86, 0x10FF6),
  (0x1E800, 0x1E8CF), (0x1E922, 0x1E943), (0x1E94B, 0x1ED3D)]

/-- The closed ranges of code points of digits that are written from left to right everywhere. -/
def plainDigitRanges : Array (Nat × Nat) := #[
  (0x30, 0x39), (0x6F0, 0x6F9), (0x102E1, 0x102FB)]

/-- The closed ranges of code points of digits that go with letters from right to left. -/
def arabicDigitRanges : Array (Nat × Nat) := #[
  (0x660, 0x669), (0x66B, 0x66C), (0x10D30, 0x10D49), (0x10E60, 0x10E7E)]

/-- The closed ranges of code points of signs. -/
def neutralRanges : Array (Nat × Nat) := #[
  (0x0, 0x8), (0xE, 0x1B), (0x21, 0x2F), (0x3A, 0x60), (0x7B, 0xD7), (0xF7, 0xF7), (0x2B9, 0x2BA),
  (0x2C2, 0x2CF), (0x2D2, 0x2ED), (0x2EF, 0x2FF), (0x375, 0x375), (0x3F6, 0x3F6), (0x58A, 0x58F),
  (0x606, 0x607), (0x609, 0x60A), (0x60C, 0x60C), (0x60E, 0x60F), (0x66A, 0x66A), (0x6DE, 0x6DE),
  (0x6E9, 0x6E9), (0x7F6, 0x7F9), (0x9F2, 0x9F3), (0x9FB, 0x9FB), (0xAF1, 0xAF1), (0xBF3, 0xBFA),
  (0xC78, 0xC7E), (0xE3F, 0xE3F), (0xF3A, 0xF3D), (0x1390, 0x1399), (0x1400, 0x1400),
  (0x169B, 0x169C), (0x17DB, 0x17DB), (0x17F0, 0x180A), (0x1940, 0x1945), (0x19DE, 0x19FF),
  (0x200C, 0x20C1), (0x2104, 0x214D), (0x218A, 0x2335), (0x237B, 0x2394), (0x2396, 0x26AB),
  (0x26AD, 0x27FF), (0x2900, 0x2BFF), (0x2CE5, 0x2CEA), (0x2CF9, 0x2CFF), (0x2E00, 0x3004),
  (0x3008, 0x3020), (0x3030, 0x3030), (0x3037, 0x3037), (0x303D, 0x303F), (0x30A0, 0x30A0),
  (0x30FB, 0x30FB), (0x31C0, 0x31E5), (0x4DC0, 0x4DFF), (0xA490, 0xA4C6), (0xA60D, 0xA60F),
  (0xA673, 0xA673), (0xA67E, 0xA67F), (0xA700, 0xA721), (0xA788, 0xA788), (0xA828, 0xA82B),
  (0xA838, 0xA839), (0xA874, 0xA877), (0xAB6A, 0xAB6B), (0xFBC3, 0xFDFF), (0xFE45, 0xFE46),
  (0xFFFD, 0xFFFD), (0x10101, 0x10101), (0x10140, 0x1018C), (0x10190, 0x101A0), (0x1091F, 0x1091F),
  (0x10B39, 0x10B3F), (0x10D6E, 0x10D6E), (0x10ED0, 0x10ED8), (0x11052, 0x11065),
  (0x11660, 0x1166C), (0x11FD5, 0x11FF1), (0x16FE2, 0x16FE2), (0x1CC00, 0x1CEF0),
  (0x1D1E9, 0x1D241), (0x1D245, 0x1D245), (0x1D300, 0x1D356), (0x1E2FF, 0x1E2FF),
  (0x1EEF0, 0x1F12F), (0x1F16D, 0x1F16F), (0x1F1AD, 0x1F1AD), (0x1F260, 0x1FBFA)]

/-- The closed ranges of code points of blanks. -/
def blankRanges : Array (Nat × Nat) := #[
  (0x9, 0xD), (0x1C, 0x20)]

/-- Marks that take no room and yet are written from left to right like letters. -/
def leftMarks : List Nat := [0xCBF, 0xCC6, 0x11A07, 0x11A08, 0x11C3F]

/-- How a character is written. -/
def direction (c : Char) : Direction :=
  if isNonspacing c && !leftMarks.contains c.toNat then .mark
  else if Text.isWithin rightRanges c then .right
  else if Text.isWithin plainDigitRanges c then .plainDigit
  else if Text.isWithin arabicDigitRanges c then .arabicDigit
  else if Text.isWithin neutralRanges c then .neutral
  else if Text.isWithin blankRanges c then .blank
  else .left

/-- Whether a label has something that is written from right to left. -/
def hasRight (label : List Char) : Bool :=
  label.any fun c => direction c = .right || direction c = .arabicDigit

/-- Whether the rest of a label keeps to the direction of its first character, when marks at the end
do not count. -/
def keepsTo (first : Direction) (rest : List Direction) : Bool :=
  match rest.reverse.dropWhile (· = .mark) with
  | [] => true
  | last :: inner =>
    match first with
    | .left =>
      (last = .left || last = .plainDigit) &&
        inner.all fun way => way ≠ .right && way ≠ .arabicDigit && way ≠ .blank
    | .right =>
      (last = .right || last = .plainDigit || last = .arabicDigit) &&
        inner.all (fun way => way ≠ .left && way ≠ .blank) &&
        !((last :: inner).contains .plainDigit && (last :: inner).contains .arabicDigit)
    | _ => false

/-- Whether a label keeps to one direction. -/
def isOneWay (label : List Char) : Bool :=
  match label.map direction with
  | [] => true
  | first :: rest => (first = .left || first = .right) && keepsTo first rest

end AccountRelay.DomainName
