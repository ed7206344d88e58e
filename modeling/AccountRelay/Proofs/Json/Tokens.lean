import AccountRelay.Json.Reader
import AccountRelay.Proofs.Hex
import AccountRelay.Proofs.Json.Grammar
import Mathlib.Data.List.TakeWhile

/-! # Reading tokens

The readers of strings and of numbers take as much of a text as belongs to their token. What they read
is written in front of what they left over (`exists_allWrittenAs_of_readString?`,
`exists_literalWrittenAs`), and a token is read whatever comes behind it, so long as nothing there goes
on with a number (`Piece.AllWrittenAs.readString?_append`, `Literal.WrittenAs.readNumber?_append`).
-/

namespace AccountRelay.Json

/-! ## Blanks -/

/-- There are four blank characters. -/
theorem isSpace_iff {c : Char} : isSpace c = true ↔ c ∈ [' ', '\t', '\n', '\r'] := by
  simp only [isSpace, Bool.or_eq_true, beq_iff_eq, List.mem_cons, List.not_mem_nil, or_false]
  grind

/-- Blanks in front of blanks are blanks. -/
theorem Blank.append {blanks text : List Char} (blank : Blank blanks) (others : Blank text) :
    Blank (blanks ++ text) :=
  List.forall_mem_append.mpr ⟨blank, others⟩

/-- Blanks in front of a text are skipped with those of the text. -/
theorem Blank.skipSpace_append {blanks : List Char} (blank : Blank blanks) (text : List Char) :
    skipSpace (blanks ++ text) = skipSpace text :=
  List.dropWhile_append_of_pos fun c member => isSpace_iff.mpr (blank c member)

/-- A text is blanks and what is left when they are skipped. -/
theorem exists_blank_append_skipSpace (text : List Char) :
    ∃ blanks, Blank blanks ∧ text = blanks ++ skipSpace text := by
  refine ⟨text.takeWhile isSpace, ?_, List.takeWhile_append_dropWhile.symm⟩
  intro c member
  exact isSpace_iff.mp (List.mem_takeWhile_imp member)

/-- A text is blank when nothing is left of it. -/
theorem blank_iff_skipSpace {text : List Char} : Blank text ↔ skipSpace text = [] := by
  rw [skipSpace, List.dropWhile_eq_nil_iff]
  exact forall₂_congr fun c _ => isSpace_iff.symm

/-- Nothing is skipped in front of a character that shows. -/
theorem skipSpace_cons {c : Char} (visible : isSpace c = false) (text : List Char) :
    skipSpace (c :: text) = c :: text :=
  List.dropWhile_cons_of_neg (by simp [visible])

variable {tokens : List Token} {text rest : List Char}

/-- Tokens may be laid out behind more blanks. -/
theorem LaidOut.append {blanks : List Char} (blank : Blank blanks) (laid : LaidOut tokens text) :
    LaidOut tokens (blanks ++ text) := by
  cases tokens with
  | nil => exact blank.append laid
  | cons token tokens =>
      obtain ⟨own, rest, own_blank, rfl, laid⟩ := laid
      exact ⟨blanks ++ own, rest, blank.append own_blank, (List.append_assoc ..).symm, laid⟩

/-- Tokens that are laid out behind the blanks of a text are laid out in the text. -/
theorem LaidOut.of_skipSpace (laid : LaidOut tokens (skipSpace text)) : LaidOut tokens text := by
  obtain ⟨blanks, blank, same⟩ := exists_blank_append_skipSpace text
  rw [same]
  exact laid.append blank

/-- A token may stand right in front of others. -/
theorem LaidOut.cons (token : Token) (laid : LaidOut tokens rest) :
    LaidOut (token :: tokens) (token ++ rest) :=
  ⟨[], rest, List.forall_mem_nil _, rfl, laid⟩

/-- Behind its blanks a text starts with its first token. -/
theorem LaidOut.exists_skipSpace_eq {c : Char} {token : Token}
    (laid : LaidOut ((c :: token) :: tokens) text) (visible : isSpace c = false) :
    ∃ rest, skipSpace text = c :: (token ++ rest) ∧ LaidOut tokens rest := by
  obtain ⟨blanks, rest, blank, rfl, laid⟩ := laid
  exact ⟨rest, (blank.skipSpace_append _).trans (skipSpace_cons visible _), laid⟩

/-! ## Strings -/

/-- The letters of escapes are those of the table. -/
theorem escape?_eq_some_iff {letter c : Char} :
    escape? letter = some c ↔ (letter, c) ∈ escapes := by
  constructor
  · intro names
    unfold escape? at names
    split at names <;> cases names <;> decide
  · intro named
    simp only [escapes, List.mem_cons, Prod.mk.injEq, List.not_mem_nil, or_false] at named
    rcases named with ⟨rfl, rfl⟩ | ⟨rfl, rfl⟩ | ⟨rfl, rfl⟩ | ⟨rfl, rfl⟩ | ⟨rfl, rfl⟩ | ⟨rfl, rfl⟩ |
      ⟨rfl, rfl⟩ | ⟨rfl, rfl⟩ <;> rfl

/-- Four characters name a code unit when they are its hexadecimal digits, small or large. -/
theorem codeUnit?_eq_some_iff {first second third fourth : Char} {code : UInt16} :
    codeUnit? first second third fourth = some code ↔
      Numeral.Denotes 16 ([first, second, third, fourth].map Char.toLower) code.toNat := by
  rw [Hex.denotes_iff]
  unfold codeUnit?
  simp only [Option.bind_eq_bind, Option.bind_eq_some_iff, Option.pure_def, Option.some_inj]
  refine exists_congr fun values => and_congr_right fun read => ?_
  -- Four digits denote a number of sixteen bits.
  have small : Numeral.value 16 values < UInt16.size := by
    obtain ⟨digits, same⟩ := Hex.mapM_hexDigit?_eq_some_iff.mp read
    have four : values.length = 4 := by
      rw [← List.length_map Numeral.digit, ← same]
      rfl
    have bound := Numeral.value_lt (by decide) digits
    rwa [four] at bound
  rw [← UInt16.toNat_inj, UInt16.toNat_ofNat_of_lt' small]

/-- A character that stands for itself is read as itself. -/
theorem readString?_plain {c : Char} (visible : 0x20 ≤ c.toNat) (no_quote : c ≠ '"')
    (no_backslash : c ≠ '\\') (text : List Char) :
    readString? (c :: text) =
      (readString? text).map fun (pieces, rest) => (.char c :: pieces, rest) := by
  rw [readString?]
  · have stands : (decide (c.toNat < 0x20) || c == '\\') = false := by
      simp [no_backslash, visible]
    rw [stands]
    cases readString? text with
    | none => rfl
    | some found => rfl
  all_goals simp_all

/-- A character that is written by a letter is read as that character. -/
theorem readString?_escaped {letter c : Char} (named : (letter, c) ∈ escapes) (text : List Char) :
    readString? ('\\' :: letter :: text) =
      (readString? text).map fun (pieces, rest) => (.char c :: pieces, rest) := by
  have names := escape?_eq_some_iff.mpr named
  have no_unit : letter ≠ 'u' := by
    rintro rfl
    cases names
  rw [readString?, names]
  · cases readString? text with
    | none => rfl
    | some found => rfl
  · intro first second third fourth rest same
    exact absurd same no_unit

/-- A code unit that is written by its digits is read as that unit. -/
theorem readString?_unit {first second third fourth : Char} {code : UInt16}
    (names : codeUnit? first second third fourth = some code) (text : List Char) :
    readString? ('\\' :: 'u' :: first :: second :: third :: fourth :: text) =
      (readString? text).map fun (pieces, rest) => (.unit code :: pieces, rest) := by
  rw [readString?, names]
  cases readString? text with
  | none => rfl
  | some found => rfl

/-- What is written of one element of a string is read first. -/
theorem Piece.WrittenAs.readString?_append {piece : Piece} {own : List Char}
    (written : piece.WrittenAs own) (text : List Char) :
    readString? (own ++ text) =
      (readString? text).map fun (pieces, rest) => (piece :: pieces, rest) := by
  cases written with
  | plain visible no_quote no_backslash => exact readString?_plain visible no_quote no_backslash text
  | escaped named => exact readString?_escaped named text
  | unit denotes => exact readString?_unit (codeUnit?_eq_some_iff.mpr denotes) text

/-- A string that is written in front of its closing mark is read up to the mark. -/
theorem Piece.AllWrittenAs.readString?_append {pieces : List Piece} {own : List Char}
    (written : AllWrittenAs pieces own) (rest : List Char) :
    readString? (own ++ '"' :: rest) = some (pieces, rest) := by
  induction written with
  | nil => simp [readString?]
  | cons first others ih => rw [List.append_assoc, first.readString?_append, ih, Option.map_some]

/-- What is read as a string is written in front of a closing mark. -/
theorem exists_allWrittenAs_of_readString? {pieces : List Piece}
    (reads : readString? text = some (pieces, rest)) :
    ∃ own, Piece.AllWrittenAs pieces own ∧ text = own ++ '"' :: rest := by
  fun_induction readString? text generalizing pieces rest with
  | case1 => cases reads
  | case2 rest' =>
      cases reads
      exact ⟨[], .nil, rfl⟩
  | case3 first second third fourth text ih =>
      simp only [Option.bind_eq_bind, Option.bind_eq_some_iff, Option.pure_def, Option.some_inj] at reads
      obtain ⟨code, names, ⟨others, behind⟩, reads, ⟨⟩⟩ := reads
      obtain ⟨own, written, rfl⟩ := ih reads
      exact ⟨_, .cons (.unit (codeUnit?_eq_some_iff.mp names)) written, rfl⟩
  | case4 letter text other ih =>
      simp only [Option.bind_eq_bind, Option.bind_eq_some_iff, Option.pure_def, Option.some_inj] at reads
      obtain ⟨c, names, ⟨others, behind⟩, reads, ⟨⟩⟩ := reads
      obtain ⟨own, written, rfl⟩ := ih reads
      exact ⟨_, .cons (.escaped (escape?_eq_some_iff.mp names)) written, rfl⟩
  | case5 c text no_quote _ _ refused => cases reads
  | case6 c text no_quote _ _ stands ih =>
      simp only [Option.bind_eq_bind, Option.bind_eq_some_iff, Option.pure_def, Option.some_inj] at reads
      obtain ⟨⟨others, behind⟩, reads, ⟨⟩⟩ := reads
      obtain ⟨own, written, rfl⟩ := ih reads
      simp only [Bool.or_eq_true, decide_eq_true_eq, beq_iff_eq, not_or, Nat.not_lt] at stands
      exact ⟨_, .cons (.plain stands.1 no_quote stands.2) written, rfl⟩

/-! ## Numbers -/

/-- Whether a text does not go on with what could belong to a number. -/
def EndsNumber (text : List Char) : Prop :=
  ∀ c ∈ text.head?, c.isDigit = false ∧ c ≠ '.' ∧ c ≠ 'e' ∧ c ≠ 'E'

/-- Behind blanks a number has ended if it has ended behind them. -/
theorem EndsNumber.of_blank_append {blanks : List Char} (blank : Blank blanks)
    (ends : EndsNumber text) : EndsNumber (blanks ++ text) := by
  cases blanks with
  | nil => exact ends
  | cons first others =>
      intro c same
      cases same
      have among := blank first List.mem_cons_self
      simp only [List.mem_cons, List.not_mem_nil, or_false] at among
      rcases among with rfl | rfl | rfl | rfl <;> decide

variable {digits : List Char}

/-- Digits are read as far as they go, and there has to be one. -/
theorem someDigits?_eq_some_iff :
    someDigits? text = some (digits, rest) ↔
      AreDigits digits ∧ text = digits ++ rest ∧ ∀ c ∈ rest.head?, c.isDigit = false := by
  constructor
  · intro reads
    unfold someDigits? at reads
    split at reads
    · cases reads
    · rename_i some_digit
      obtain ⟨rfl, rfl⟩ := Prod.mk.inj (Option.some.inj reads)
      refine ⟨⟨some_digit, fun c member => List.mem_takeWhile_imp member⟩,
        List.takeWhile_append_dropWhile.symm, ?_⟩
      intro c first
      have stops := List.head?_dropWhile_not Char.isDigit text
      rwa [Option.mem_def.mp first] at stops
  · rintro ⟨⟨some_digit, digital⟩, rfl, ends⟩
    have rest_taken : rest.takeWhile Char.isDigit = [] ∧ rest.dropWhile Char.isDigit = rest := by
      cases rest with
      | nil => exact ⟨rfl, rfl⟩
      | cons c rest => simp [ends c rfl]
    unfold someDigits?
    rw [List.takeWhile_append_of_pos digital, List.dropWhile_append_of_pos digital, rest_taken.1,
      rest_taken.2, List.append_nil]
    split
    · contradiction
    · rfl

/-- The whole part of a number is digits, of which the first is zero only if it is the only one. -/
theorem readWhole?_eq_some_iff :
    readWhole? text = some (digits, rest) ↔
      someDigits? text = some (digits, rest) ∧ (digits.head? = some '0' → digits = ['0']) := by
  unfold readWhole?
  split
  · rename_i second others behind found
    rw [found]
    simp only [reduceCtorEq, Option.some_inj, Prod.mk.injEq, false_iff, not_and, and_imp]
    rintro rfl -
    simp
  · rename_i allowed
    refine ⟨fun reads => ⟨reads, ?_⟩, And.left⟩
    intro zero
    cases digits with
    | nil => cases zero
    | cons first others =>
        cases zero
        cases others with
        | nil => rfl
        | cons second others => exact absurd reads (allowed second others rest)

/-- What is read as a fraction is written in front of what is left. -/
theorem exists_fractionWrittenAs {fraction : List Char}
    (reads : readFraction? text = some (fraction, rest)) :
    ∃ own, FractionWrittenAs fraction own ∧ text = own ++ rest := by
  unfold readFraction? at reads
  split at reads
  · obtain ⟨digital, rfl, -⟩ := someDigits?_eq_some_iff.mp reads
    exact ⟨_, .point digital, rfl⟩
  · cases reads
    exact ⟨[], .absent, rfl⟩

/-- A fraction is read up to where it ends. -/
theorem FractionWrittenAs.readFraction?_append {fraction own : List Char}
    (written : FractionWrittenAs fraction own)
    (ends : ∀ c ∈ rest.head?, c.isDigit = false ∧ c ≠ '.') :
    readFraction? (own ++ rest) = some (fraction, rest) := by
  cases written with
  | absent =>
      cases rest with
      | nil => rfl
      | cons c rest =>
          have no_point := (ends c rfl).2
          rw [List.nil_append, readFraction?]
          simp [no_point]
  | point digital =>
      exact someDigits?_eq_some_iff.mpr ⟨digital, rfl, fun c first => (ends c first).1⟩

/-- What is read as an exponent is written in front of what is left. -/
theorem exists_exponentWrittenAs {exponent : Option (Bool × List Char)}
    (reads : readExponent? text = some (exponent, rest)) :
    ∃ own, ExponentWrittenAs exponent own ∧ text = own ++ rest := by
  unfold readExponent? at reads
  split at reads
  · rename_i c behind
    split at reads
    · rename_i marks
      simp only [Bool.or_eq_true, beq_iff_eq] at marks
      obtain ⟨⟨digits, rest⟩, found, ⟨⟩⟩ := Option.map_eq_some_iff.mp reads
      split at found
      · obtain ⟨digital, rfl, -⟩ := someDigits?_eq_some_iff.mp found
        exact ⟨_, .minus marks digital, rfl⟩
      · obtain ⟨digital, rfl, -⟩ := someDigits?_eq_some_iff.mp found
        exact ⟨_, .plus marks digital, rfl⟩
      · obtain ⟨digital, rfl, -⟩ := someDigits?_eq_some_iff.mp found
        exact ⟨_, .bare marks digital, rfl⟩
    · cases reads
      exact ⟨[], .absent, rfl⟩
  · cases reads
    exact ⟨[], .absent, rfl⟩

/-- Whether an exponent is negative, and its text behind its sign. -/
def unsignedExponent : List Char → Bool × List Char
  | '-' :: digits => (true, digits)
  | '+' :: digits => (false, digits)
  | digits => (false, digits)

/-- Behind its letter an exponent is a sign, or none, and digits. -/
theorem readExponent?_letter {letter : Char} (marks : letter = 'e' ∨ letter = 'E') (text : List Char) :
    readExponent? (letter :: text) =
      (someDigits? (unsignedExponent text).2).map fun (digits, rest) =>
        (some ((unsignedExponent text).1, digits), rest) := by
  have marked : (letter == 'e' || letter == 'E') = true := by
    simpa only [Bool.or_eq_true, beq_iff_eq] using marks
  exact if_pos marked

/-- Digits have no sign in front of them. -/
theorem unsignedExponent_of_areDigits {digits : List Char} (digital : AreDigits digits)
    (rest : List Char) : unsignedExponent (digits ++ rest) = (false, digits ++ rest) := by
  obtain ⟨some_digit, all_digits⟩ := digital
  obtain ⟨first, others, rfl⟩ := List.exists_cons_of_ne_nil some_digit
  have is_digit := all_digits first List.mem_cons_self
  rw [List.cons_append]
  unfold unsignedExponent
  split
  · rename_i same
    cases same
    cases is_digit
  · rename_i same
    cases same
    cases is_digit
  · rfl

/-- An exponent is read up to where the number ends. -/
theorem ExponentWrittenAs.readExponent?_append {exponent : Option (Bool × List Char)}
    {own : List Char} (written : ExponentWrittenAs exponent own) (ends : EndsNumber rest) :
    readExponent? (own ++ rest) = some (exponent, rest) := by
  have found {digits : List Char} (digital : AreDigits digits) :
      someDigits? (digits ++ rest) = some (digits, rest) :=
    someDigits?_eq_some_iff.mpr ⟨digital, rfl, fun c first => (ends c first).1⟩
  cases written with
  | absent =>
      cases rest with
      | nil => rfl
      | cons c rest =>
          obtain ⟨-, -, no_e, no_E⟩ := ends c rfl
          simp [readExponent?, no_e, no_E]
  | bare marks digital =>
      rw [List.cons_append, readExponent?_letter marks, unsignedExponent_of_areDigits digital,
        found digital]
      rfl
  | plus marks digital =>
      rw [List.cons_append, List.cons_append, readExponent?_letter marks, unsignedExponent,
        found digital]
      rfl
  | minus marks digital =>
      rw [List.cons_append, List.cons_append, readExponent?_letter marks, unsignedExponent,
        found digital]
      rfl

/-- The digits behind a point end where an exponent begins, or the number ends. -/
theorem ExponentWrittenAs.ends_fraction {exponent : Option (Bool × List Char)} {own : List Char}
    (written : ExponentWrittenAs exponent own) (ends : EndsNumber rest) :
    ∀ c ∈ (own ++ rest).head?, c.isDigit = false ∧ c ≠ '.' := by
  intro c first
  have letter_ends {letter : Char} (marks : letter = 'e' ∨ letter = 'E') :
      letter.isDigit = false ∧ letter ≠ '.' := by
    rcases marks with rfl | rfl <;> decide
  cases written with
  | absent => exact ⟨(ends c first).1, (ends c first).2.1⟩
  | bare marks | plus marks | minus marks =>
      cases first
      exact letter_ends marks

/-- A fraction does not go on with a digit of the whole part. -/
theorem FractionWrittenAs.ends_whole {fraction own : List Char}
    (written : FractionWrittenAs fraction own)
    (ends : ∀ c ∈ rest.head?, c.isDigit = false ∧ c ≠ '.') :
    ∀ c ∈ (own ++ rest).head?, c.isDigit = false := by
  intro c first
  cases written with
  | absent => exact (ends c first).1
  | point digital =>
      cases first
      rfl

/-- Whether a number is negative, and its text behind its sign. -/
def unsigned : List Char → Bool × List Char
  | '-' :: digits => (true, digits)
  | digits => (false, digits)

/-- A number is read as its sign, its whole part, its fraction and its exponent. -/
theorem readNumber?_eq (text : List Char) :
    readNumber? text =
      (readWhole? (unsigned text).2).bind fun (whole, rest) =>
        (readFraction? rest).bind fun (fraction, rest) =>
          (readExponent? rest).bind fun (exponent, rest) =>
            some (⟨(unsigned text).1, whole, fraction, exponent⟩, rest) := by
  unfold unsigned
  split
  · rfl
  · rename_i no_sign
    unfold readNumber?
    split
    rename_i same
    split at same
    · exact absurd rfl (no_sign _)
    · cases same
      rfl

/-- A number is negative exactly when there is a sign in front of its digits. -/
theorem unsigned_of_areDigits {digits : List Char} (digital : AreDigits digits) (negative : Bool)
    (rest : List Char) :
    unsigned ((if negative then ['-'] else []) ++ (digits ++ rest)) = (negative, digits ++ rest) := by
  cases negative with
  | true => rfl
  | false =>
      obtain ⟨some_digit, all_digits⟩ := digital
      obtain ⟨first, others, rfl⟩ := List.exists_cons_of_ne_nil some_digit
      have is_digit := all_digits first List.mem_cons_self
      simp only [Bool.false_eq_true, ↓reduceIte, List.nil_append, List.cons_append]
      unfold unsigned
      split
      · rename_i same
        cases same
        cases is_digit
      · rfl

/-- A text is the sign that it begins with and what is behind it. -/
theorem append_unsigned (text : List Char) :
    (if (unsigned text).1 then ['-'] else []) ++ (unsigned text).2 = text := by
  unfold unsigned
  split
  · rfl
  · rfl

/-- What is read as a number is written in front of what is left. -/
theorem exists_literalWrittenAs {literal : Literal}
    (reads : readNumber? text = some (literal, rest)) :
    ∃ own, literal.WrittenAs own ∧ text = own ++ rest := by
  rw [readNumber?_eq] at reads
  simp only [Option.bind_eq_some_iff] at reads
  obtain ⟨⟨whole, behind⟩, whole_reads, ⟨fraction, behind'⟩, fraction_reads, ⟨exponent, _⟩,
    exponent_reads, ⟨⟩⟩ := reads
  obtain ⟨found, no_leading_zero⟩ := readWhole?_eq_some_iff.mp whole_reads
  obtain ⟨digital, digits, -⟩ := someDigits?_eq_some_iff.mp found
  obtain ⟨fraction_text, fractional, rfl⟩ := exists_fractionWrittenAs fraction_reads
  obtain ⟨exponent_text, exponential, rfl⟩ := exists_exponentWrittenAs exponent_reads
  have parts := append_unsigned text
  rw [digits] at parts
  refine ⟨_, .intro digital no_leading_zero fractional exponential, parts.symm.trans ?_⟩
  simp only [List.append_assoc]

/-- A number begins with a minus sign or a digit. -/
theorem Literal.WrittenAs.exists_first {literal : Literal} {token : Token}
    (written : literal.WrittenAs token) :
    ∃ c others, token = c :: others ∧ (c = '-' ∨ c.isDigit = true) := by
  obtain ⟨⟨some_digit, all_digits⟩, -, -, -⟩ := written
  obtain ⟨first, others, starts⟩ := List.exists_cons_of_ne_nil some_digit
  rw [starts] at all_digits
  rw [starts]
  cases literal.negative with
  | true => exact ⟨'-', _, rfl, .inl rfl⟩
  | false => exact ⟨first, _, rfl, .inr (all_digits first List.mem_cons_self)⟩

/-- A number is read up to where it ends. -/
theorem Literal.WrittenAs.readNumber?_append {literal : Literal} {own : Token}
    (written : literal.WrittenAs own) (ends : EndsNumber rest) :
    readNumber? (own ++ rest) = some (literal, rest) := by
  obtain ⟨digital, no_leading_zero, fractional, exponential⟩ := written
  rename_i fraction exponent
  have exponent_reads := exponential.readExponent?_append ends
  have fraction_ends := exponential.ends_fraction ends
  have fraction_reads := fractional.readFraction?_append fraction_ends
  have whole_reads : readWhole? (literal.whole ++ (fraction ++ (exponent ++ rest))) =
      some (literal.whole, fraction ++ (exponent ++ rest)) :=
    readWhole?_eq_some_iff.mpr ⟨someDigits?_eq_some_iff.mpr
      ⟨digital, rfl, fractional.ends_whole fraction_ends⟩, no_leading_zero⟩
  rw [readNumber?_eq, List.append_assoc, List.append_assoc, List.append_assoc,
    unsigned_of_areDigits digital]
  simp only [whole_reads, Option.bind_some, fraction_reads, exponent_reads]

end AccountRelay.Json
