import AccountRelay.Proofs.Outcome
import AccountRelay.Uint256.Halves
import Mathlib.Logic.ExistsUnique

/-! # Reading halves of words

Two numbers share a word as soon as both are below `2 ^ 128`, and the first that is not is named
otherwise (`Word.error?_ofHalves`). The halves of the word hold the two numbers that it was made of
(`Word.high_of_ofHalves`, `Word.low_of_ofHalves`), so no two pairs of numbers share a word
(`Word.ofHalves_inj`). Put together again, the halves of any word are that word
(`Word.ofHalves_high_low`). So each word is made of one pair of numbers (`Word.one_pair_a_word`).
-/

namespace AccountRelay

open Outcome (error? error?_bind)

/-- A half of a word has 128 bits. -/
theorem halfWordSize_eq : halfWordSize = 2 ^ 128 := by
  decide

/-- A number makes a half exactly when it has at most 128 bits, and the half is its 16 bytes. -/
theorem Labelled.half_eq_ok_iff {number : Labelled} {half : Octets 16} :
    number.half = .ok half ↔
      number.value.toNat < halfWordSize ∧ Octets.ofNat 16 number.value.toNat = half := by
  unfold Labelled.half
  split
  · rename_i fits
    simp [fits]
  · rename_i wide
    simp [wide]

/-- The bytes of half a word spell the number. -/
theorem Labelled.toNat_of_half {number : Labelled} {half : Octets 16}
    (fits : number.half = .ok half) : half.toNat = number.value.toNat := by
  obtain ⟨small, rfl⟩ := half_eq_ok_iff.mp fits
  have power : halfWordSize = 256 ^ 16 := by decide
  rw [power] at small
  exact Octets.toNat_ofNat small

/-- The refusal of a number that needs more than half a word. -/
def Labelled.tooWide? (number : Labelled) : Option TooWide :=
  if number.value.toNat < 2 ^ 128 then none else some ⟨number.field, number.value⟩

/-- A number is not refused exactly when it has at most 128 bits. -/
theorem Labelled.tooWide?_eq_none_iff {number : Labelled} :
    number.tooWide? = none ↔ number.value.toNat < 2 ^ 128 := by
  simp [tooWide?]

/-- A number that is refused is named with its field and its value. -/
theorem Labelled.tooWide?_eq_some_iff {number : Labelled} {fault : TooWide} :
    number.tooWide? = some fault ↔
      2 ^ 128 ≤ number.value.toNat ∧ fault = ⟨number.field, number.value⟩ := by
  rw [tooWide?, Option.ite_none_left_eq_some, Nat.not_lt, Option.some_inj]
  exact and_congr_right fun _ => eq_comm

/-- A number makes no half for the one reason that it is too wide. -/
theorem Labelled.error?_half (number : Labelled) : error? number.half = number.tooWide? := by
  unfold half tooWide?
  rw [halfWordSize_eq]
  split
  · rfl
  · rfl

namespace Word

variable {high low : Labelled} {word : Word}

/-- Two numbers make a word exactly when each makes a half, the first above the second. -/
theorem ofHalves_eq_ok_iff :
    ofHalves high low = .ok word ↔
      ∃ upper lower, high.half = .ok upper ∧ low.half = .ok lower ∧
        word.toList = upper.toList ++ lower.toList := by
  unfold ofHalves
  simp only [Outcome.bind_eq_ok_iff, Outcome.pure_eq_ok_iff]
  constructor
  · rintro ⟨upper, one, lower, two, rfl⟩
    exact ⟨upper, lower, one, two, rfl⟩
  · rintro ⟨upper, lower, one, two, bytes⟩
    exact ⟨upper, one, lower, two, Octets.toList_injective bytes.symm⟩

/-- The upper number is looked at first. -/
theorem error?_ofHalves (high low : Labelled) :
    error? (ofHalves high low) = [high, low].findSome? Labelled.tooWide? := by
  have halves : error? (ofHalves high low) = (error? high.half).or ((error? low.half).or none) :=
    error?_bind fun _ _ => error?_bind fun _ _ => rfl
  rw [halves, high.error?_half, low.error?_half, List.findSome?_cons, List.findSome?_singleton]
  cases high.tooWide? with
  | none => simp
  | some fault => rfl

/-- Two numbers fail as the first of them that is too wide. -/
theorem ofHalves_eq_error_iff {fault : TooWide} :
    ofHalves high low = .error fault ↔
      high.tooWide? = some fault ∨ high.tooWide? = none ∧ low.tooWide? = some fault := by
  rw [← Outcome.error?_eq_some_iff, error?_ofHalves, List.findSome?_cons, List.findSome?_singleton]
  cases high.tooWide? with
  | none => simp
  | some own => simp

/-- Two numbers make some word exactly when both have at most 128 bits. -/
theorem exists_ofHalves_iff (high low : Labelled) :
    (∃ word, ofHalves high low = .ok word) ↔
      high.value.toNat < halfWordSize ∧ low.value.toNat < halfWordSize := by
  rw [← Outcome.error?_eq_none_iff, error?_ofHalves, List.findSome?_eq_none_iff, halfWordSize_eq]
  simp only [Labelled.tooWide?_eq_none_iff, List.forall_mem_cons, List.not_mem_nil, false_implies,
    implies_true, and_true]

/-- The upper half of a packed word is the first number. -/
theorem high_of_ofHalves (packs : ofHalves high low = .ok word) :
    word.high = high.value.toNat := by
  obtain ⟨upper, lower, one, -, bytes⟩ := ofHalves_eq_ok_iff.mp packs
  rw [Word.high, bytes, List.take_left' upper.length_eq]
  exact Labelled.toNat_of_half one

/-- The lower half of a packed word is the second number. -/
theorem low_of_ofHalves (packs : ofHalves high low = .ok word) : word.low = low.value.toNat := by
  obtain ⟨upper, lower, -, two, bytes⟩ := ofHalves_eq_ok_iff.mp packs
  rw [Word.low, bytes, List.drop_left' upper.length_eq]
  exact Labelled.toNat_of_half two

/-- A word is made of one pair of numbers only. -/
theorem ofHalves_inj {high' low' : Labelled} (packs : ofHalves high low = .ok word)
    (packs' : ofHalves high' low' = .ok word) :
    high.value = high'.value ∧ low.value = low'.value := by
  have upper := (high_of_ofHalves packs).symm.trans (high_of_ofHalves packs')
  have lower := (low_of_ofHalves packs).symm.trans (low_of_ofHalves packs')
  exact ⟨BitVec.eq_of_toNat_eq upper, BitVec.eq_of_toNat_eq lower⟩

/-- The number that sixteen bytes spell fits in half a word, as these bytes. -/
theorem half_of_decode {bytes : Bytes} (sixteen : bytes.length = 16) (field : String) :
    Labelled.half ⟨field, BitVec.ofNat 256 (BigEndian.decode bytes)⟩ = .ok ⟨bytes, sixteen⟩ := by
  have small : BigEndian.decode bytes < 256 ^ 16 := by
    rw [← sixteen]
    exact BigEndian.decode_lt bytes
  have value : (BitVec.ofNat 256 (BigEndian.decode bytes)).toNat = BigEndian.decode bytes := by
    rw [BitVec.toNat_ofNat]
    exact Nat.mod_eq_of_lt (Nat.lt_trans small (by decide))
  refine Labelled.half_eq_ok_iff.mpr ?_
  rw [value]
  exact ⟨small, Octets.ofNat_toNat ⟨bytes, sixteen⟩⟩

/-- The halves of a word, put together again, are the word. -/
theorem ofHalves_high_low (word : Word) (upper lower : String) :
    ofHalves ⟨upper, BitVec.ofNat 256 word.high⟩ ⟨lower, BitVec.ofNat 256 word.low⟩ = .ok word := by
  have front : (word.toList.take 16).length = 16 := by
    rw [List.length_take, word.length_eq]
    rfl
  have back : (word.toList.drop 16).length = 16 := by
    rw [List.length_drop, word.length_eq]
  exact ofHalves_eq_ok_iff.mpr ⟨_, _, half_of_decode front upper, half_of_decode back lower,
    (List.take_append_drop 16 word.toList).symm⟩

/-- **Each word is made of one pair of numbers.** Two numbers make a word exactly when both are below
`2 ^ 128`, and otherwise the first that is not, the upper one before the lower one, is what it fails
with. The halves of the word are the two numbers. Conversely the halves of any word make that word,
and no other pair does. -/
theorem one_pair_a_word :
    (∀ high low : Labelled,
      ((∃ word, ofHalves high low = .ok word) ↔
        high.value.toNat < 2 ^ 128 ∧ low.value.toNat < 2 ^ 128) ∧
      (∀ fault, ofHalves high low = .error fault ↔
        2 ^ 128 ≤ high.value.toNat ∧ fault = ⟨high.field, high.value⟩ ∨
        high.value.toNat < 2 ^ 128 ∧ 2 ^ 128 ≤ low.value.toNat ∧ fault = ⟨low.field, low.value⟩) ∧
      ∀ word, ofHalves high low = .ok word →
        word.high = high.value.toNat ∧ word.low = low.value.toNat) ∧
    ∀ (word : Word) (upper lower : String),
      ofHalves ⟨upper, BitVec.ofNat 256 word.high⟩ ⟨lower, BitVec.ofNat 256 word.low⟩ = .ok word ∧
      ∃! pair : Uint256 × Uint256, ofHalves ⟨upper, pair.1⟩ ⟨lower, pair.2⟩ = .ok word := by
  refine ⟨?_, ?_⟩
  · intro high low
    refine ⟨?_, ?_, ?_⟩
    · rw [← halfWordSize_eq]
      exact exists_ofHalves_iff high low
    · intro fault
      rw [ofHalves_eq_error_iff, Labelled.tooWide?_eq_none_iff, Labelled.tooWide?_eq_some_iff,
        Labelled.tooWide?_eq_some_iff]
    · intro word packs
      exact ⟨high_of_ofHalves packs, low_of_ofHalves packs⟩
  · intro word upper lower
    have again := ofHalves_high_low word upper lower
    refine ⟨again, (_, _), again, ?_⟩
    intro pair packs
    obtain ⟨same_upper, same_lower⟩ := ofHalves_inj packs again
    exact Prod.ext same_upper same_lower

end Word

end AccountRelay
