import AccountRelay.Proofs.Contracts.Deriving
import AccountRelay.Proofs.Uint256.Decimal
import AccountRelay.Proofs.Uint256.Quantity

/-! # What salts denote

A salt is written as digit pairs behind a mark, or as a decimal counter. Either way the text denotes
a number (`Input.DenotesSalt`), and it is read exactly when it does, as the word of that number
(`Input.salt_eq_ok_iff`). So the two notations and the counters of registries meet in the number:
texts of one number are texts of one salt, and texts of two numbers are texts of two
(`Input.salts_by_number`).
-/

namespace AccountRelay

/-- A text without blanks is not shortened. -/
theorem Text.trimmed_eq_self {text : List Char} (plain : ∀ c ∈ text, isBlank c = false) :
    trimmed text = text := by
  have kept (part : List Char) (all : ∀ c ∈ part, isBlank c = false) :
      part.dropWhile isBlank = part := by
    cases part with
    | nil => rfl
    | cons first rest => exact List.dropWhile_cons_of_neg (by simp [all first List.mem_cons_self])
  rw [trimmed, kept text plain, kept text.reverse fun c member => plain c (List.mem_reverse.mp member),
    List.reverse_reverse]

/-- A decimal digit is no blank. -/
theorem Text.isBlank_of_decimal {c : Char} (low : '0' ≤ c) (high : c ≤ '9') :
    isBlank c = false := by
  have low : 48 ≤ c.toNat := low
  have high : c.toNat ≤ 57 := high
  simp only [isBlank, Bool.or_eq_false_iff, Bool.and_eq_false_iff, decide_eq_false_iff_not,
    beq_eq_false_iff_ne]
  omega

/-- Octets are those of a number when they are its bytes. -/
theorem Octets.eq_ofNat_iff {size number : Nat} {octets : Octets size} :
    octets = Octets.ofNat size number ↔ octets.toList = BigEndian.encode size number := by
  constructor
  · exact congrArg Octets.toList
  · intro same
    have alike : octets.toList = (Octets.ofNat size number).toList := same
    exact Octets.toList_injective alike

/-- Numbers that fit have the same octets only if they are the same. -/
theorem Octets.ofNat_inj {size number other : Nat} (fits : number < 256 ^ size)
    (other_fits : other < 256 ^ size) :
    Octets.ofNat size number = Octets.ofNat size other ↔ number = other := by
  constructor
  · intro same
    have numbers := congrArg Octets.toNat same
    rwa [Octets.toNat_ofNat fits, Octets.toNat_ofNat other_fits] at numbers
  · rintro rfl
    rfl

namespace Hex

variable {text : List Char} {number : Nat}

/-- Spelled bytes denote the number that they spell in base 256. -/
theorem Spells.denotes {bytes : Bytes} (spells : Spells text bytes) :
    Numeral.Denotes 16 (text.map Char.toLower) (BigEndian.decode bytes) := by
  have read := spells_iff.mp spells
  exact denotes_iff.mpr ⟨_, read, (spells.decode_eq read).symm⟩

/-- Digit pairs that denote a number spell the bytes of that number. -/
theorem exists_spells_of_denotes (paired : text.length % 2 = 0)
    (denotes : Numeral.Denotes 16 (text.map Char.toLower) number) :
    ∃ bytes, Spells text bytes ∧ BigEndian.decode bytes = number := by
  obtain ⟨values, read, rfl⟩ := denotes_iff.mp denotes
  have spells := spells_pairs read (by rwa [length_of_mapM_hexDigit? read])
  exact ⟨_, spells, spells.decode_eq read⟩

end Hex

/-- Counters have salts of their own. -/
theorem Salt.ofCounter_inj {first second : UInt64} :
    Salt.ofCounter first = Salt.ofCounter second ↔ first = second := by
  have fits (counter : UInt64) : counter.toNat < 256 ^ 32 :=
    Nat.lt_trans counter.toNat_lt (by decide)
  rw [Salt.ofCounter, Salt.ofCounter, Octets.ofNat_inj (fits first) (fits second), UInt64.toNat_inj]

namespace Input

/-! ## Counters -/

/-- The text is decimal digits, of which there is at least one, with a plus sign in front or without,
and they denote a number of 64 bits. -/
def DenotesCounter (text : List Char) (number : Nat) : Prop :=
  ∃ digits, (text = digits ∨ text = '+' :: digits) ∧ digits ≠ [] ∧
    Numeral.Denotes 10 digits number ∧ number < 2 ^ 64

/-- A text has a decimal value when it is digits, of which there is at least one, that denote it. -/
theorem digitsValue?_eq_some_iff {text : List Char} {number : Nat} :
    digitsValue? text = some number ↔ text ≠ [] ∧ Numeral.Denotes 10 text number := by
  unfold digitsValue? Numeral.Denotes
  simp only [← and_assoc, ← Numeral.mapM_decimalDigit?_eq_some_iff,
    Numeral.ofDigits_reverse_eq_value]
  cases read : text.mapM Numeral.decimalDigit? with
  | none => simp
  | some values =>
    have digits := (Numeral.mapM_decimalDigit?_eq_some_iff.mp read).2
    cases values with
    | nil => simp [digits]
    | cons first rest => simp [digits]

/-- The text without a plus sign in front. -/
def unsigned : List Char → List Char
  | '+' :: rest => rest
  | text => text

/-- A counter is digits without the plus sign, if their value takes no more than 64 bits. -/
theorem counter?_eq (text : List Char) :
    counter? text = (digitsValue? (unsigned text)).bind fun number =>
      if number < UInt64.size then some (UInt64.ofNat number) else none := by
  unfold counter?
  split
  · rename_i rest
    rw [unsigned]
    dsimp only
    cases digitsValue? rest with
    | some number => rfl
    | none => rfl
  · rename_i plain
    rw [unsigned.eq_2 text plain]
    dsimp only
    cases digitsValue? text with
    | some number => rfl
    | none => rfl

/-- Digits have no plus sign, so they are what is left without it. -/
theorem eq_unsigned_iff {text digits : List Char} (decimal : ∀ c ∈ digits, '0' ≤ c ∧ c ≤ '9') :
    text = digits ∨ text = '+' :: digits ↔ unsigned text = digits := by
  have no_sign (rest : List Char) : digits ≠ '+' :: rest := by
    rintro rfl
    exact absurd (decimal '+' List.mem_cons_self) (by decide)
  unfold unsigned
  split
  · rename_i rest
    simp [(no_sign rest).symm]
  · rename_i plain
    exact or_iff_left (plain digits)

/-- A counter is read as the number that its digits denote. -/
theorem counter?_eq_some_iff {text : List Char} {counter : UInt64} :
    counter? text = some counter ↔ DenotesCounter text counter.toNat := by
  have limited (number : Nat) : (if number < UInt64.size then some (UInt64.ofNat number) else none) =
      some counter ↔ number = counter.toNat := by
    rw [Option.ite_none_right_eq_some, Option.some.injEq]
    constructor
    · rintro ⟨small, rfl⟩
      exact (UInt64.toNat_ofNat_of_lt small).symm
    · rintro rfl
      exact ⟨counter.toNat_lt, UInt64.ofNat_toNat⟩
  simp only [counter?_eq, Option.bind_eq_some_iff, limited, exists_eq_right, digitsValue?_eq_some_iff]
  constructor
  · rintro ⟨some_digit, denotes⟩
    exact ⟨_, (eq_unsigned_iff (Numeral.forall_decimal_of_denotes denotes)).mpr rfl, some_digit,
      denotes, counter.toNat_lt⟩
  · rintro ⟨digits, signed, some_digit, denotes, -⟩
    rw [(eq_unsigned_iff (Numeral.forall_decimal_of_denotes denotes)).mp signed]
    exact ⟨some_digit, denotes⟩

/-! ## Salts -/

/-- What a text denotes as a salt: digit pairs behind the mark `0x`, or a counter with blanks around
it or without. -/
inductive DenotesSalt (text : String) (number : Nat) : Prop
  | pairs {digits : List Char} (marked : text.toList = '0' :: 'x' :: digits)
      (paired : digits.length % 2 = 0) (short : digits.length ≤ 64)
      (denotes : Numeral.Denotes 16 (digits.map Char.toLower) number)
  | counter (unmarked : ¬['0', 'x'] <+: text.toList)
      (denotes : DenotesCounter (Text.trimmed text.toList) number)

/-- Bytes are a salt when there are no more than 32, filled up in front. -/
theorem saltOfBytes_eq_ok_iff {bytes : Bytes} {salt : Salt} :
    saltOfBytes bytes = .ok salt ↔
      bytes.length ≤ 32 ∧ salt = Octets.ofNat 32 (BigEndian.decode bytes) := by
  unfold saltOfBytes
  split
  · rename_i long
    exact ⟨nofun, fun read => absurd read.1 (Nat.not_le.mpr long)⟩
  · rename_i short
    rw [Except.ok.injEq, eq_comm, and_iff_right (Nat.not_lt.mp short)]

/-- Behind the mark a salt is read from the bytes that are spelled there. -/
theorem salt_of_marked {text : String} {digits : List Char} {salt : Salt}
    (marked : text.toList = '0' :: 'x' :: digits) :
    Input.salt text = .ok salt ↔ ∃ bytes, Hex.Spells digits bytes ∧ bytes.length ≤ 32 ∧
      salt = Octets.ofNat 32 (BigEndian.decode bytes) := by
  simp only [← saltOfBytes_eq_ok_iff, ← Hex.decode_eq_ok_iff, Input.salt, marked]
  cases Hex.decode digits with
  | ok bytes => simp
  | error fault => simp

/-- Without the mark a salt is read from a counter. -/
theorem salt_of_unmarked {text : String} {salt : Salt} (unmarked : ¬['0', 'x'] <+: text.toList) :
    Input.salt text = .ok salt ↔
      ∃ counter, counter? (Text.trimmed text.toList) = some counter ∧
        salt = Salt.ofCounter counter := by
  unfold Input.salt
  split
  · rename_i digits marked
    rw [marked] at unmarked
    exact absurd (List.prefix_append _ digits) unmarked
  · cases counter? (Text.trimmed text.toList) with
    | some counter => simp [eq_comm]
    | none => simp

/-- A salt is read as the word of the number that its text denotes. -/
theorem salt_eq_ok_iff {text : String} {salt : Salt} :
    Input.salt text = .ok salt ↔ ∃ number, DenotesSalt text number ∧
      salt = Octets.ofNat 32 number := by
  by_cases prefixed : ['0', 'x'] <+: text.toList
  · obtain ⟨digits, marked⟩ := prefixed
    have marked : text.toList = '0' :: 'x' :: digits := marked.symm
    rw [salt_of_marked marked]
    constructor
    · rintro ⟨bytes, spells, short, rfl⟩
      have length := spells.length_eq
      exact ⟨_, .pairs marked (by omega) (by omega) spells.denotes, rfl⟩
    · rintro ⟨number, ⟨same, paired, short, denotes⟩ | ⟨unmarked, -⟩, rfl⟩
      · rw [marked, List.cons.injEq, List.cons.injEq] at same
        obtain ⟨-, -, rfl⟩ := same
        obtain ⟨bytes, spells, rfl⟩ := Hex.exists_spells_of_denotes paired denotes
        have length := spells.length_eq
        exact ⟨bytes, spells, by omega, rfl⟩
      · rw [marked] at unmarked
        exact absurd (List.prefix_append _ digits) unmarked
  · rw [salt_of_unmarked prefixed]
    constructor
    · rintro ⟨counter, read, rfl⟩
      exact ⟨_, .counter prefixed (counter?_eq_some_iff.mp read), rfl⟩
    · rintro ⟨number, ⟨marked, -, -, -⟩ | ⟨-, denotes⟩, rfl⟩
      · rw [marked] at prefixed
        exact absurd (List.prefix_append ['0', 'x'] _) prefixed
      · have small : number < 2 ^ 64 := denotes.choose_spec.2.2.2
        have counted : (UInt64.ofNat number).toNat = number := UInt64.toNat_ofNat_of_lt small
        refine ⟨UInt64.ofNat number, counter?_eq_some_iff.mpr ?_, ?_⟩
        · rwa [counted]
        · rw [Salt.ofCounter, counted]

/-- What a text denotes as a salt fits into a word. -/
theorem DenotesSalt.lt {text : String} {number : Nat} (denotes : DenotesSalt text number) :
    number < 256 ^ 32 := by
  cases denotes with
  | pairs marked paired short denotes =>
    obtain ⟨bytes, spells, rfl⟩ := Hex.exists_spells_of_denotes paired denotes
    have length := spells.length_eq
    exact Nat.lt_of_lt_of_le (BigEndian.decode_lt bytes)
      (Nat.pow_le_pow_right (by decide) (by omega))
  | counter unmarked denotes =>
    obtain ⟨digits, signed, some_digit, denotes, small⟩ := denotes
    exact Nat.lt_trans small (by decide)

/-- A text that denotes a salt is read as the word of the number. -/
theorem DenotesSalt.salt_eq {text : String} {number : Nat} (denotes : DenotesSalt text number) :
    Input.salt text = .ok (Octets.ofNat 32 number) :=
  salt_eq_ok_iff.mpr ⟨number, denotes, rfl⟩

/-- The texts that denote a number as a salt, by their digits. -/
theorem exists_denotesSalt_iff {text : String} :
    (∃ number, DenotesSalt text number) ↔
      (∃ digits, text.toList = '0' :: 'x' :: digits ∧ digits.length % 2 = 0 ∧
        digits.length ≤ 64 ∧ ∀ c ∈ digits, Hex.IsDigit c) ∨
      ¬['0', 'x'] <+: text.toList ∧ ∃ number, DenotesCounter (Text.trimmed text.toList) number := by
  constructor
  · rintro ⟨number, ⟨marked, paired, short, denotes⟩ | ⟨unmarked, denotes⟩⟩
    · obtain ⟨bytes, spells, -⟩ := Hex.exists_spells_of_denotes paired denotes
      exact .inl ⟨_, marked, paired, short, spells.isDigit⟩
    · exact .inr ⟨unmarked, number, denotes⟩
  · rintro (⟨digits, marked, paired, short, spelled⟩ | ⟨unmarked, number, denotes⟩)
    · obtain ⟨bytes, spells⟩ := Hex.exists_spells_iff.mpr ⟨paired, spelled⟩
      exact ⟨_, .pairs marked paired short spells.denotes⟩
    · exact ⟨number, .counter unmarked denotes⟩

/-- A counter denotes itself in decimal digits. -/
theorem denotesSalt_decimal (counter : UInt64) :
    DenotesSalt (Numeral.decimal counter.toNat) counter.toNat := by
  have denotes : Numeral.Denotes 10 (Numeral.render 10 counter.toNat) counter.toNat :=
    Numeral.denotes_render (by decide) counter.toNat
  have digits := Numeral.forall_decimal_of_denotes denotes
  have written : (Numeral.decimal counter.toNat).toList = Numeral.render 10 counter.toNat :=
    String.toList_ofList
  have trimmed : Text.trimmed (Numeral.render 10 counter.toNat) = Numeral.render 10 counter.toNat :=
    Text.trimmed_eq_self fun c member => Text.isBlank_of_decimal (digits c member).1 (digits c member).2
  refine .counter ?_ ⟨Numeral.render 10 counter.toNat, .inl ?_, ?_, denotes, counter.toNat_lt⟩
  · rw [written]
    rintro ⟨rest, prefixed⟩
    have digit := digits 'x' (prefixed ▸ by simp)
    exact absurd digit (by decide)
  · rw [written, trimmed]
  · simpa [Numeral.render] using Numeral.digitsOf_ne_nil 10 counter.toNat

/-- A number denotes itself in pairs of digits that are wide enough for it. -/
theorem denotesSalt_marked {width number : Nat} (short : width ≤ 32)
    (fits : number < 256 ^ width) :
    DenotesSalt (Hex.marked (BigEndian.encode width number)) number := by
  have spells := Hex.spells_encode (BigEndian.encode width number)
  have length := spells.length_eq
  have denotes := spells.denotes
  rw [BigEndian.length_encode] at length
  rw [BigEndian.decode_encode fits] at denotes
  exact .pairs (Hex.toList_marked _) (by omega) (by omega) denotes

/-- **A salt is one number, however it is written.** -/
theorem salts_by_number :
    (∀ text, (∃ salt, Input.salt text = .ok salt) ↔
      (∃ digits, text.toList = '0' :: 'x' :: digits ∧ digits.length % 2 = 0 ∧
        digits.length ≤ 64 ∧ ∀ c ∈ digits, Hex.IsDigit c) ∨
      ¬['0', 'x'] <+: text.toList ∧
        ∃ number, DenotesCounter (Text.trimmed text.toList) number) ∧
    (∀ text salt, Input.salt text = .ok salt ↔
      ∃ number, DenotesSalt text number ∧ salt.toList = BigEndian.encode 32 number) ∧
    (∀ one other number other_number, DenotesSalt one number → DenotesSalt other other_number →
      (Input.salt one = Input.salt other ↔ number = other_number)) ∧
    (∀ counter : UInt64,
      Input.salt (Numeral.decimal counter.toNat) = .ok (Salt.ofCounter counter) ∧
      (∀ width ≤ 32, counter.toNat < 256 ^ width →
        Input.salt (Hex.marked (BigEndian.encode width counter.toNat)) =
          .ok (Salt.ofCounter counter)) ∧
      ∀ text, DenotesSalt text counter.toNat → Input.salt text = .ok (Salt.ofCounter counter)) ∧
    (∀ first second, Salt.ofCounter first = Salt.ofCounter second ↔ first = second) ∧
    ∀ (contracts other : Contracts) owner other_owner first second,
      contracts.createAccountCallData owner (Salt.ofCounter first) =
          other.createAccountCallData other_owner (Salt.ofCounter second) ↔
        owner = other_owner ∧ first = second ∧ contracts.entryPoint = other.entryPoint := by
  refine ⟨fun text => ?_, fun text salt => ?_, fun one other number other_number denotes denoted => ?_,
    fun counter => ⟨?_, fun width short fits => ?_, fun text denotes => ?_⟩,
    fun first second => Salt.ofCounter_inj,
    fun contracts other owner other_owner first second => ?_⟩
  · rw [← exists_denotesSalt_iff]
    constructor
    · rintro ⟨salt, read⟩
      obtain ⟨number, denotes, -⟩ := salt_eq_ok_iff.mp read
      exact ⟨number, denotes⟩
    · rintro ⟨number, denotes⟩
      exact ⟨_, denotes.salt_eq⟩
  · simp only [salt_eq_ok_iff, Octets.eq_ofNat_iff]
  · rw [denotes.salt_eq, denoted.salt_eq, Except.ok.injEq, Octets.ofNat_inj denotes.lt denoted.lt]
  · exact (denotesSalt_decimal counter).salt_eq
  · exact (denotesSalt_marked short fits).salt_eq
  · exact denotes.salt_eq
  · rw [Contracts.createAccountCallData_inj, Salt.ofCounter_inj]

/-- Seven is denoted in both notations, and as a counter. -/
theorem salts_by_number_seven :
    (DenotesSalt " +7" 7 ∧ DenotesSalt "0x0007" 7 ∧ Input.salt " +7" = Input.salt "0x0007") ∧
      Input.salt (Hex.marked (BigEndian.encode 2 7)) = .ok (Salt.ofCounter 7) ∧
      Input.salt "0x0007" = .ok (Salt.ofCounter 7) := by
  have signed : DenotesSalt " +7" 7 :=
    .counter (by decide) ⟨['7'], .inr (by decide), by decide, ⟨[7], by decide, rfl, rfl⟩, by decide⟩
  have paired : DenotesSalt "0x0007" 7 :=
    .pairs rfl rfl (by decide) ⟨[0, 0, 0, 7], by decide, by decide, rfl⟩
  obtain ⟨-, -, alike, counted, -⟩ := salts_by_number
  have seven := (counted 7).2
  exact ⟨⟨signed, paired, (alike _ _ _ _ signed paired).mpr rfl⟩,
    seven.1 2 (by decide) (by decide), seven.2 _ paired⟩

end Input

end AccountRelay
