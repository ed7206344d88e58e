import AccountRelay.Hex
import AccountRelay.Proofs.Numeral
import AccountRelay.Proofs.Outcome

/-! # Reading hexadecimal text

What a hexadecimal text says is stated without a reader: `Hex.IsDigit` are the digits of either
case, `Hex.Spells` ties a text of digits to the bytes that are written there, and `Hex.IsBehind`
tells the digits of a text from the marks `0x` in front of them. The strict reader reads exactly
what is spelled (`Hex.decode_eq_ok_iff`), behind at most one mark (`Hex.decodeMarked_eq_ok_iff`), and
so does the reader for a known number of bytes (`Hex.octets?_eq_some_iff`). The reader that lets gaps
stand among the digits reads nothing else in a text without gaps (`Hex.looseOctets?_eq_some_iff`).
-/

namespace AccountRelay.Hex

/-- A hexadecimal digit of either case. -/
def IsDigit (c : Char) : Prop :=
  '0' ≤ c ∧ c ≤ '9' ∨ 'a' ≤ c ∧ c ≤ 'f' ∨ 'A' ≤ c ∧ c ≤ 'F'

/-- The text is `rest` with marks `0x` in front, `most` of them at most. -/
def IsBehind (most : Nat) (text rest : List Char) : Prop :=
  ∃ marks ≤ most, text = (List.replicate marks ['0', 'x']).flatten ++ rest

/-- The text has two digits of either case for every byte, the high half first. -/
def Spells (text : List Char) (bytes : Bytes) : Prop :=
  text.map Char.toLower = encode bytes

/-! ## Digits -/

section Digits

variable {c : Char} {text : List Char} {values : List Nat} {bytes : Bytes}

/-- A digit is a character that has a value below 16. -/
theorem isDigit_iff : IsDigit c ↔ ∃ value, Numeral.hexDigit? c = some value := by
  rw [← Option.isSome_iff_exists, IsDigit, Numeral.hexDigit?]
  grind

/-- There is no mark among digits. -/
theorem notMem_of_isDigit (digits : ∀ c ∈ text, IsDigit c) : 'x' ∉ text := by
  intro member
  obtain ⟨value, read⟩ := isDigit_iff.mp (digits 'x' member)
  cases read

/-- A digit takes one byte. -/
theorem IsDigit.utf8Size (digit : IsDigit c) : c.utf8Size = 1 := by
  have small : c.toNat ≤ 127 := by
    rcases digit with range | range | range
    · exact Nat.le_trans range.2 (by decide)
    · exact Nat.le_trans range.2 (by decide)
    · exact Nat.le_trans range.2 (by decide)
  exact if_pos small

/-- Digits take as many bytes as there are. -/
theorem byteLength_eq_length (digits : ∀ c ∈ text, IsDigit c) : byteLength text = text.length := by
  induction text with
  | nil => rfl
  | cons c rest ih =>
    obtain ⟨here, behind⟩ := List.forall_mem_cons.mp digits
    rw [byteLength, here.utf8Size, ih behind, List.length_cons, Nat.add_comm]

/-- The values of the digits of a text. -/
theorem mapM_hexDigit?_eq_some_iff :
    text.mapM Numeral.hexDigit? = some values ↔
      (∀ value ∈ values, value < 16) ∧ text.map Char.toLower = values.map Numeral.digit :=
  Numeral.mapM_eq_some_iff Char.toLower Numeral.hexDigit?_eq_some_iff

/-- Digits denote a number that can be computed from their values. -/
theorem denotes_iff {number : Nat} :
    Numeral.Denotes 16 (text.map Char.toLower) number ↔
      ∃ values, text.mapM Numeral.hexDigit? = some values ∧ Numeral.value 16 values = number := by
  simp only [Numeral.Denotes, mapM_hexDigit?_eq_some_iff, Numeral.ofDigits_reverse_eq_value, and_assoc]

/-- A text has values when all its characters are digits. -/
theorem exists_mapM_hexDigit?_iff :
    (∃ values, text.mapM Numeral.hexDigit? = some values) ↔ ∀ c ∈ text, IsDigit c := by
  induction text with
  | nil => simp
  | cons c rest ih =>
    rw [List.forall_mem_cons, ← ih, isDigit_iff]
    simp only [Numeral.mapM_cons_eq_some_iff]
    constructor
    · rintro ⟨_, value, others, here, behind, rfl⟩
      exact ⟨⟨value, here⟩, others, behind⟩
    · rintro ⟨⟨value, here⟩, others, behind⟩
      exact ⟨value :: others, value, others, here, behind, rfl⟩

/-- The strict reader finds the same digits, from whatever position it counts. -/
theorem digits_eq_ok_iff {position : Nat} :
    digits position text = .ok values ↔ text.mapM Numeral.hexDigit? = some values := by
  induction text generalizing position values with
  | nil => simp [digits]
  | cons c rest ih =>
    rw [digits, Numeral.mapM_cons_eq_some_iff]
    cases Numeral.hexDigit? c with
    | none => simp
    | some value => simp [Outcome.map_eq_ok_iff, ih]

/-- Pairs of digits are the two halves of a byte each. -/
theorem halves_pairs (even : values.length % 2 = 0) (small : ∀ value ∈ values, value < 16) :
    (pairs values).flatMap (fun byte => [byte.toNat / 16, byte.toNat % 16]) = values := by
  fun_induction pairs values with
  | case1 high low rest ih =>
    obtain ⟨high_small, low_small, rest_small⟩ := by
      simpa only [List.forall_mem_cons] using small
    have byte : (UInt8.ofNat (16 * high + low)).toNat = 16 * high + low := by
      rw [UInt8.toNat_ofNat']
      omega
    have upper : (16 * high + low) / 16 = high := by omega
    have lower : (16 * high + low) % 16 = low := by omega
    rw [List.flatMap_cons, byte, upper, lower,
      ih (by simp only [List.length_cons] at even; omega) rest_small]
    rfl
  | case2 values unpaired =>
    match values with
    | [] => rfl
    | [last] => simp at even
    | high :: low :: rest => exact absurd rfl (unpaired high low rest)

/-- Bytes are written as the digits of their halves. -/
theorem encode_eq_map (bytes : Bytes) : encode bytes =
    (bytes.flatMap fun byte => [byte.toNat / 16, byte.toNat % 16]).map Numeral.digit := by
  simp [encode, List.map_flatMap]

/-- The halves of bytes are below 16. -/
theorem halves_lt (bytes : Bytes) :
    ∀ value ∈ bytes.flatMap fun byte => [byte.toNat / 16, byte.toNat % 16], value < 16 := by
  intro value member
  obtain ⟨byte, -, half⟩ := List.mem_flatMap.mp member
  have small := byte.toNat_lt
  simp only [List.mem_cons, List.not_mem_nil, or_false] at half
  omega

/-- What bytes are written with are digits of values below 16. -/
theorem exists_digit_of_mem_encode (member : c ∈ encode bytes) :
    ∃ value < 16, c = Numeral.digit value := by
  rw [encode_eq_map] at member
  obtain ⟨value, value_mem, rfl⟩ := List.mem_map.mp member
  exact ⟨value, halves_lt bytes value value_mem, rfl⟩

/-- The bytes that pairs of values make are written with the values. -/
theorem encode_pairs (even : values.length % 2 = 0) (small : ∀ value ∈ values, value < 16) :
    encode (pairs values) = values.map Numeral.digit := by
  rw [encode_eq_map, halves_pairs even small]

/-! ## Spelled bytes -/

/-- A byte is spelled with two digits. -/
theorem Spells.length_eq (spells : Spells text bytes) : text.length = 2 * bytes.length := by
  rw [← length_encode, ← spells, List.length_map]

/-- Bytes are spelled by a text whose digits are the halves of the bytes. -/
theorem spells_iff :
    Spells text bytes ↔
      text.mapM Numeral.hexDigit? =
        some (bytes.flatMap fun byte => [byte.toNat / 16, byte.toNat % 16]) := by
  rw [mapM_hexDigit?_eq_some_iff, Spells, encode_eq_map]
  exact (and_iff_right (halves_lt bytes)).symm

/-- Bytes are spelled by the digits that they are written with. -/
theorem spells_encode (bytes : Bytes) : Spells (encode bytes) bytes := by
  refine (List.map_congr_left ?_).trans (List.map_id _)
  intro c member
  obtain ⟨value, small, rfl⟩ := exists_digit_of_mem_encode member
  exact Numeral.toLower_digit small

/-- Bytes are spelled with digits only. -/
theorem Spells.isDigit (spells : Spells text bytes) : ∀ c ∈ text, IsDigit c :=
  exists_mapM_hexDigit?_iff.mp ⟨_, spells_iff.mp spells⟩

/-- Digits in an even number spell the bytes that pairs of their values make. -/
theorem spells_pairs (read : text.mapM Numeral.hexDigit? = some values)
    (even : values.length % 2 = 0) : Spells text (pairs values) := by
  obtain ⟨small, digits⟩ := mapM_hexDigit?_eq_some_iff.mp read
  rw [Spells, digits, encode_pairs even small]

/-- There is one value for each digit. -/
theorem length_of_mapM_hexDigit? (read : text.mapM Numeral.hexDigit? = some values) :
    values.length = text.length := by
  have digits := congrArg List.length (mapM_hexDigit?_eq_some_iff.mp read).2
  rw [List.length_map, List.length_map] at digits
  exact digits.symm

/-- A text spells bytes exactly when it is an even number of digits. -/
theorem exists_spells_iff :
    (∃ bytes, Spells text bytes) ↔ text.length % 2 = 0 ∧ ∀ c ∈ text, IsDigit c := by
  constructor
  · rintro ⟨bytes, spells⟩
    exact ⟨by rw [spells.length_eq]; omega, spells.isDigit⟩
  · rintro ⟨even, digits⟩
    obtain ⟨values, read⟩ := exists_mapM_hexDigit?_iff.mpr digits
    exact ⟨pairs values, spells_pairs read (by rwa [length_of_mapM_hexDigit? read])⟩

/-- What the strict reader reads is what is spelled. -/
theorem decode_eq_ok_iff : decode text = .ok bytes ↔ Spells text bytes := by
  rw [decode]
  constructor
  · intro read
    split at read
    · cases read
    · rename_i paired
      cases found : digits 0 text with
      | error fault =>
        rw [found] at read
        cases read
      | ok values =>
        rw [found] at read
        cases read
        have values_read := digits_eq_ok_iff.mp found
        rw [byteLength_eq_length (exists_mapM_hexDigit?_iff.mp ⟨_, values_read⟩)] at paired
        exact spells_pairs values_read (by rw [length_of_mapM_hexDigit? values_read]; omega)
  · intro spells
    rw [if_neg (by rw [byteLength_eq_length spells.isDigit, spells.length_eq]; omega),
      digits_eq_ok_iff.mpr (spells_iff.mp spells), Except.map, pairs_flatMap]

end Digits

/-! ## Marks -/

section Marks

variable {most : Nat} {text rest : List Char} {bytes : Bytes}

/-- A text without an x has no mark to lose. -/
theorem unmarked_eq_self (plain : 'x' ∉ text) : unmarked text = text := by
  unfold unmarked
  split
  · simp at plain
  · rfl

/-- Behind no mark at all there is the text. -/
theorem isBehind_zero_iff : IsBehind 0 text rest ↔ text = rest := by
  constructor
  · rintro ⟨_, none, rfl⟩
    rw [Nat.le_zero.mp none]
    rfl
  · rintro rfl
    exact ⟨0, Nat.le_refl 0, rfl⟩

/-- What has no mark is behind one more mark in a text when it is so without the text's mark. -/
theorem isBehind_succ_iff (plain : 'x' ∉ rest) :
    IsBehind (most + 1) text rest ↔ IsBehind most (unmarked text) rest := by
  constructor
  · rintro ⟨marks, few, rfl⟩
    cases marks with
    | zero => exact ⟨0, Nat.zero_le most, unmarked_eq_self plain⟩
    | succ marks => exact ⟨marks, Nat.le_of_succ_le_succ few, rfl⟩
  · rintro ⟨marks, few, behind⟩
    unfold unmarked at behind
    split at behind
    · exact ⟨marks + 1, Nat.succ_le_succ few, by rw [behind]; rfl⟩
    · exact ⟨marks, Nat.le_succ_of_le few, behind⟩

/-- Behind at most one mark there is the text without its mark. -/
theorem isBehind_one_iff (plain : 'x' ∉ rest) :
    IsBehind 1 text rest ↔ unmarked text = rest := by
  rw [isBehind_succ_iff plain, isBehind_zero_iff]

/-- Behind at most two marks there is the text without both. -/
theorem isBehind_two_iff (digits : ∀ c ∈ rest, IsDigit c) :
    IsBehind 2 text rest ↔ unmarked (unmarked text) = rest := by
  rw [isBehind_succ_iff (notMem_of_isDigit digits), isBehind_one_iff (notMem_of_isDigit digits)]

/-- What is left without its mark stands behind at most one. -/
theorem isBehind_unmarked (text : List Char) : IsBehind 1 text (unmarked text) := by
  unfold unmarked
  split
  · exact ⟨1, Nat.le_refl 1, rfl⟩
  · exact ⟨0, Nat.zero_le 1, rfl⟩

/-- Behind the mark there are the digits of the bytes. -/
theorem toList_marked (bytes : Bytes) : (marked bytes).toList = '0' :: 'x' :: encode bytes :=
  String.toList_ofList

/-- The digits of bytes that are written with a mark stand behind one mark. -/
theorem isBehind_marked (bytes : Bytes) : IsBehind 1 (marked bytes).toList (encode bytes) :=
  ⟨1, Nat.le_refl 1, toList_marked bytes⟩

/-- Bytes are spelled behind at most one mark when they are spelled without it. -/
theorem exists_isBehind_spells_iff :
    (∃ digits, IsBehind 1 text digits ∧ Spells digits bytes) ↔ Spells (unmarked text) bytes := by
  constructor
  · rintro ⟨digits, behind, spells⟩
    rwa [(isBehind_one_iff (notMem_of_isDigit spells.isDigit)).mp behind]
  · intro spells
    exact ⟨unmarked text, isBehind_unmarked text, spells⟩

/-- What is read behind an optional mark is what is spelled behind at most one. -/
theorem decodeMarked_eq_ok_iff :
    decodeMarked text = .ok bytes ↔ ∃ digits, IsBehind 1 text digits ∧ Spells digits bytes := by
  rw [decodeMarked, decode_eq_ok_iff, exists_isBehind_spells_iff]

/-- A text is read as bytes of a number when it is their digits behind at most one mark. -/
theorem octets?_eq_some_iff {size : Nat} {octets : Octets size} :
    octets? size text = some octets ↔
      ∃ digits, IsBehind 1 text digits ∧ Spells digits octets.toList := by
  rw [← decodeMarked_eq_ok_iff, octets?]
  cases decodeMarked text with
  | ok bytes => rw [Octets.ofBytes?_eq_some_iff, Except.ok.injEq]
  | error fault => simp

end Marks

/-! ## Gaps -/

section Gaps

variable {text : List Char} {size : Nat} {octets : Octets size}

/-- From a text without gaps nothing is left out. -/
theorem filter_gap_eq_self (plain : ∀ c ∈ text, isGap c = false) :
    text.filter (fun c => !isGap c) = text := by
  rw [List.filter_eq_self]
  intro c member
  rw [plain c member]
  rfl

/-- A text without its mark has no characters of its own. -/
theorem mem_of_mem_unmarked {c : Char} (member : c ∈ unmarked text) : c ∈ text := by
  unfold unmarked at member
  split at member
  · exact List.mem_cons_of_mem _ (List.mem_cons_of_mem _ member)
  · exact member

/-- In a text without gaps, the reader that allows gaps reads what the strict one does. -/
theorem looseOctets?_eq_some_iff (plain : ∀ c ∈ text, isGap c = false) :
    looseOctets? size text = some octets ↔
      ∃ digits, IsBehind 1 text digits ∧ Spells digits octets.toList := by
  have dense : (unmarked text).filter (fun c => !isGap c) = unmarked text :=
    filter_gap_eq_self fun c member => plain c (mem_of_mem_unmarked member)
  rw [exists_isBehind_spells_iff]
  simp only [looseOctets?]
  constructor
  · intro read
    split at read
    · rename_i sized
      rw [loosely?, if_pos (by omega), dense] at read
      obtain ⟨bytes, loosely, exact⟩ := Option.bind_eq_some_iff.mp read
      obtain ⟨values, digits, rfl⟩ := Option.map_eq_some_iff.mp loosely
      have spells := spells_pairs digits (by rw [length_of_mapM_hexDigit? digits]; omega)
      have whole : size - (pairs values).length = 0 := by
        have length := spells.length_eq
        omega
      rw [whole, List.replicate_zero, List.append_nil, Octets.ofBytes?_eq_some_iff] at exact
      rwa [← exact]
    · cases read
  · intro spells
    have sized := spells.length_eq
    rw [octets.length_eq] at sized
    rw [if_pos sized, loosely?, if_pos (by omega), dense, spells_iff.mp spells, Option.map_some,
      Option.bind_some, pairs_flatMap, octets.length_eq, Nat.sub_self, List.replicate_zero,
      List.append_nil, Octets.ofBytes?_eq_some_iff]

/-- A digit is no gap. -/
theorem IsDigit.isGap {c : Char} (digit : IsDigit c) : isGap c = false := by
  obtain ⟨value, read⟩ := isDigit_iff.mp digit
  rw [Bool.eq_false_iff]
  intro gap
  simp only [Hex.isGap, Bool.or_eq_true, decide_eq_true_eq] at gap
  rcases gap with ((rfl | rfl) | rfl) | rfl
  all_goals cases read

/-- Bytes behind a mark have no gaps among them. -/
theorem isGap_marked (bytes : Bytes) : ∀ c ∈ (marked bytes).toList, isGap c = false := by
  intro c member
  rw [toList_marked, List.mem_cons, List.mem_cons] at member
  rcases member with rfl | rfl | digit
  · rfl
  · rfl
  · exact ((spells_encode bytes).isDigit c digit).isGap

end Gaps

end AccountRelay.Hex
