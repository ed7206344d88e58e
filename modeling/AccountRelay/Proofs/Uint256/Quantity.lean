import AccountRelay.Bundler.Reply
import AccountRelay.Proofs.Hex
import AccountRelay.Proofs.Outcome

/-! # Reading quantities

A quantity holds the hexadecimal digits of a number, of which there are 64 at most
(`Numeral.length_digitsOf_le`). Read in pairs as bytes they spell the same number as one by one
(`Hex.decode_pairs`), whether or not a zero had to be put in front. So a quantity is read exactly
when it is 64 digits at most behind two marks at most, as the number that the digits denote
(`Uint256.ofQuantity_eq_ok_iff`, `Uint256.exists_ofQuantity_iff`), and every number is read back
from its own quantity (`Uint256.ofQuantity_toQuantity`). `Uint256.parseQuantity_exact` says all of
it in one place.
-/

namespace AccountRelay

namespace Numeral

/-- A number below a power of the base has no more digits than the power has factors. -/
theorem length_digitsOf_le {base : Nat} (large : 1 < base) (number : Nat) {width : Nat}
    (some_digit : 0 < width) (small : number < base ^ width) :
    (digitsOf base number).length ≤ width := by
  fun_induction digitsOf base number generalizing width with
  | case1 number short => exact some_digit
  | case2 number long ih =>
      obtain ⟨width, rfl⟩ := Nat.exists_eq_succ_of_ne_zero (Nat.ne_of_gt some_digit)
      have quotient : number / base < base ^ width := by
        rw [Nat.div_lt_iff_lt_mul (by omega)]
        rwa [Nat.pow_succ] at small
      have positive : 0 < width := by
        apply Nat.pos_of_ne_zero
        rintro rfl
        rw [Nat.pow_zero, Nat.lt_one_iff, Nat.div_eq_zero_iff] at quotient
        omega
      rw [List.length_append, List.length_singleton]
      exact Nat.succ_le_succ (ih positive quotient)

/-- A leading zero adds nothing to the value of digits. -/
@[simp] theorem value_cons_zero (base : Nat) (digits : List Nat) :
    value base (0 :: digits) = value base digits := by
  simp [value]

end Numeral

namespace Hex

/-- The bytes of pairs of digits spell the number that the digits denote. -/
theorem decode_pairs {digits : List Nat} (even : digits.length % 2 = 0)
    (small : ∀ digit ∈ digits, digit < 16) :
    BigEndian.decode (pairs digits) = Numeral.value 16 digits := by
  -- One byte takes a number as far as its two digits do, from wherever the number stands.
  have folded : ∀ number,
      (pairs digits).foldl (fun number byte => number * 256 + byte.toNat) number =
        digits.foldl (fun number digit => number * 16 + digit) number := by
    fun_induction pairs digits with
    | case1 high low rest ih =>
        intro number
        have high_small := small high (by simp)
        have low_small := small low (by simp)
        have byte : (UInt8.ofNat (16 * high + low)).toNat = 16 * high + low := by
          rw [UInt8.toNat_ofNat']
          omega
        rw [List.foldl_cons, List.foldl_cons, List.foldl_cons, byte,
          ih (by simp only [List.length_cons] at even; omega)
            fun digit member => small digit (by simp [member])]
        congr 1
        omega
    | case2 digits unpaired =>
        cases digits with
        | nil => intro number; rfl
        | cons last rest =>
            cases rest with
            | nil => simp at even
            | cons next rest => exact absurd rfl (unpaired last next rest)
  exact folded 0

/-- Bytes spelled by the digits of a number spell that number. -/
theorem Spells.decode_eq {text : List Char} {bytes : Bytes} {values : List Nat}
    (spells : Spells text bytes) (read : text.mapM Numeral.hexDigit? = some values) :
    BigEndian.decode bytes = Numeral.value 16 values := by
  have even : values.length % 2 = 0 := by
    rw [length_of_mapM_hexDigit? read, spells.length_eq]
    omega
  have same := (spells_iff.mp spells).symm.trans read
  rw [← pairs_flatMap bytes, Option.some.inj same]
  exact decode_pairs even (mapM_hexDigit?_eq_some_iff.mp read).1

end Hex

namespace Uint256

section Digits

variable {text : List Char} {number : Uint256}

/-- A number is read from at most 64 digits that denote it. -/
theorem ofDigits_of_mapM {values : List Nat} (read : text.mapM Numeral.hexDigit? = some values)
    (short : text.length ≤ 64) :
    ofDigits text = .ok (BitVec.ofNat 256 (Numeral.value 16 values)) := by
  have digits := Hex.exists_mapM_hexDigit?_iff.mp ⟨values, read⟩
  have decoded : ∀ {even : List Char} {values : List Nat}, even.length % 2 = 0 →
      even.mapM Numeral.hexDigit? = some values →
      (Hex.decode even).map (fun bytes => BitVec.ofNat 256 (BigEndian.decode bytes)) =
        .ok (BitVec.ofNat 256 (Numeral.value 16 values)) := by
    intro even values paired all
    obtain ⟨bytes, spells⟩ :=
      Hex.exists_spells_iff.mpr ⟨paired, Hex.exists_mapM_hexDigit?_iff.mp ⟨values, all⟩⟩
    rw [Hex.decode_eq_ok_iff.mpr spells, Except.map, spells.decode_eq all]
  simp only [ofDigits, Hex.byteLength_eq_length digits]
  rw [if_neg (by omega)]
  split
  · rename_i paired
    exact decoded paired read
  · rename_i unpaired
    have padded : ('0' :: text).mapM Numeral.hexDigit? = some (0 :: values) := by
      have zero : Numeral.hexDigit? '0' = some 0 := rfl
      rw [List.mapM_cons, read, zero]
      rfl
    rw [decoded (by rw [List.length_cons]; omega) padded, Numeral.value_cons_zero]

/-- What is read as a number is a text of digits, of which there are 64 at most. -/
theorem isDigit_of_ofDigits (read : ofDigits text = .ok number) :
    text.length ≤ 64 ∧ ∀ c ∈ text, Hex.IsDigit c := by
  simp only [ofDigits] at read
  split at read
  · cases read
  · rename_i short
    have digits : ∀ c ∈ text, Hex.IsDigit c := by
      cases decoded : Hex.decode (if Hex.byteLength text % 2 = 0 then text else '0' :: text) with
      | error fault =>
          rw [decoded] at read
          cases read
      | ok bytes =>
          have all := (Hex.decode_eq_ok_iff.mp decoded).isDigit
          intro c member
          apply all
          split
          · exact member
          · exact List.mem_cons_of_mem _ member
    rw [Hex.byteLength_eq_length digits] at short
    exact ⟨Nat.not_lt.mp short, digits⟩

/-- Digits are read as the number that they denote, in either case. -/
theorem ofDigits_eq_ok_iff :
    ofDigits text = .ok number ↔
      text.length ≤ 64 ∧ Numeral.Denotes 16 (text.map Char.toLower) number.toNat := by
  constructor
  · intro read
    obtain ⟨short, digits⟩ := isDigit_of_ofDigits read
    obtain ⟨values, found⟩ := Hex.exists_mapM_hexDigit?_iff.mpr digits
    obtain ⟨small, digits⟩ := Hex.mapM_hexDigit?_eq_some_iff.mp found
    rw [ofDigits_of_mapM found short] at read
    cases read
    refine ⟨short, values, small, digits, ?_⟩
    have bound : Numeral.value 16 values < 2 ^ 256 :=
      calc Numeral.value 16 values < 16 ^ values.length := Numeral.value_lt (by decide) small
        _ ≤ 16 ^ 64 := Nat.pow_le_pow_right (by decide)
          (by rwa [Hex.length_of_mapM_hexDigit? found])
        _ = 2 ^ 256 := by norm_num
    rw [Numeral.ofDigits_reverse_eq_value, BitVec.toNat_ofNat, Nat.mod_eq_of_lt bound]
  · rintro ⟨short, values, small, digits, denoted⟩
    rw [ofDigits_of_mapM (Hex.mapM_hexDigit?_eq_some_iff.mpr ⟨small, digits⟩) short,
      ← Numeral.ofDigits_reverse_eq_value, denoted, BitVec.ofNat_toNat, BitVec.setWidth_eq]

end Digits

section Quantities

variable {text : List Char} {number : Uint256}

/-- A quantity is what is written with at most 64 digits behind at most two marks. -/
theorem exists_ofQuantity_iff :
    (∃ number, ofQuantity text = .ok number) ↔
      ∃ digits, Hex.IsBehind 2 text digits ∧ digits.length ≤ 64 ∧ ∀ c ∈ digits, Hex.IsDigit c := by
  unfold ofQuantity
  constructor
  · rintro ⟨number, read⟩
    obtain ⟨short, digits⟩ := isDigit_of_ofDigits read
    refine ⟨_, ?_, short, digits⟩
    rw [Hex.isBehind_two_iff digits]
  · rintro ⟨rest, behind, short, digits⟩
    rw [Hex.isBehind_two_iff digits] at behind
    obtain ⟨values, read⟩ := Hex.exists_mapM_hexDigit?_iff.mpr digits
    exact ⟨_, by rw [behind, ofDigits_of_mapM read short]⟩

/-- A hexadecimal text has hexadecimal digits only, in either case. -/
theorem isDigit_of_denotes (denotes : Numeral.Denotes 16 (text.map Char.toLower) number.toNat) :
    ∀ c ∈ text, Hex.IsDigit c := by
  obtain ⟨values, small, digits, -⟩ := denotes
  exact Hex.exists_mapM_hexDigit?_iff.mp
    ⟨values, Hex.mapM_hexDigit?_eq_some_iff.mpr ⟨small, digits⟩⟩

/-- A quantity is read as the number that its digits denote. -/
theorem ofQuantity_eq_ok_iff :
    ofQuantity text = .ok number ↔
      ∃ digits, Hex.IsBehind 2 text digits ∧ digits.length ≤ 64 ∧
        Numeral.Denotes 16 (digits.map Char.toLower) number.toNat := by
  unfold ofQuantity
  constructor
  · intro read
    obtain ⟨short, denotes⟩ := ofDigits_eq_ok_iff.mp read
    refine ⟨_, ?_, short, denotes⟩
    have digits := isDigit_of_denotes denotes
    rw [Hex.isBehind_two_iff digits]
  · rintro ⟨rest, behind, short, denotes⟩
    have digits := isDigit_of_denotes denotes
    rw [Hex.isBehind_two_iff digits] at behind
    rw [behind]
    exact ofDigits_eq_ok_iff.mpr ⟨short, denotes⟩

/-- A quantity is written as its hexadecimal form behind `0x`. -/
theorem toList_toQuantity (number : Uint256) :
    number.toQuantity.toList = '0' :: 'x' :: Numeral.render 16 number.toNat := by
  simp [toQuantity, Numeral.hexadecimal]

/-- Every number is read back from its quantity. -/
theorem ofQuantity_toQuantity (number : Uint256) :
    ofQuantity number.toQuantity.toList = .ok number := by
  have small : ∀ digit ∈ Numeral.digitsOf 16 number.toNat, digit < 16 :=
    Numeral.digitsOf_lt (by decide) number.toNat
  have lower : (Numeral.render 16 number.toNat).map Char.toLower =
      Numeral.render 16 number.toNat := by
    rw [Numeral.render, List.map_map]
    exact List.map_congr_left fun value member => Numeral.toLower_digit (small value member)
  rw [ofQuantity_eq_ok_iff]
  refine ⟨Numeral.render 16 number.toNat, ⟨1, by decide, toList_toQuantity number⟩, ?_, ?_⟩
  · rw [Numeral.render, List.length_map]
    exact Numeral.length_digitsOf_le (by decide) number.toNat (by decide) number.isLt
  · rw [lower]
    exact Numeral.denotes_render (by decide) number.toNat

/-- The digits of a quantity are in lower case, and the first one is zero only for zero. -/
theorem render_lower (number : Nat) :
    (∀ c ∈ Numeral.render 16 number, '0' ≤ c ∧ c ≤ '9' ∨ 'a' ≤ c ∧ c ≤ 'f') ∧
      ((Numeral.render 16 number).head? = some '0' ↔ number = 0) := by
  have small : ∀ digit ∈ Numeral.digitsOf 16 number, digit < 16 :=
    Numeral.digitsOf_lt (by decide) number
  constructor
  · have lower : ∀ value < 16, '0' ≤ Numeral.digit value ∧ Numeral.digit value ≤ '9' ∨
        'a' ≤ Numeral.digit value ∧ Numeral.digit value ≤ 'f' := by decide
    intro c member
    obtain ⟨value, present, rfl⟩ := List.mem_map.mp member
    exact lower value (small value present)
  · have leading : (Numeral.digitsOf 16 number).head? = some 0 ↔ number = 0 :=
      Numeral.head?_digitsOf_eq_zero_iff
    rw [← leading, Numeral.render, List.head?_map, Option.map_eq_some_iff]
    constructor
    · rintro ⟨value, first, digit⟩
      have first_small := small value (List.mem_of_head? first)
      rw [first, Numeral.eq_zero_of_digit_eq value first_small digit]
    · intro first
      exact ⟨0, first, rfl⟩

end Quantities

/-- **Quantities lose and invent nothing.** A number is written behind `0x` with the lower-case
digits that denote it, of which only the one of zero begins with a zero, and read back as it was. A
text is read exactly when it is 64 digits of either case at most behind two marks at most, and then
as the natural number that these digits denote, which is zero if there are none. -/
theorem parseQuantity_exact :
    (∀ number : Uint256, ∃ digits,
      number.toQuantity.toList = '0' :: 'x' :: digits ∧
      (∀ c ∈ digits, '0' ≤ c ∧ c ≤ '9' ∨ 'a' ≤ c ∧ c ≤ 'f') ∧
      (number = 0 → digits = ['0']) ∧ (number ≠ 0 → digits.head? ≠ some '0') ∧
      Numeral.Denotes 16 digits number.toNat ∧
      parseQuantity number.toQuantity = .ok number) ∧
    (∀ text : String, (∃ number, parseQuantity text = .ok number) ↔
      ∃ digits, Hex.IsBehind 2 text.toList digits ∧ digits.length ≤ 64 ∧
        ∀ c ∈ digits, Hex.IsDigit c) ∧
    ∀ (text : String) (number : Uint256), parseQuantity text = .ok number ↔
      ∃ digits, Hex.IsBehind 2 text.toList digits ∧ digits.length ≤ 64 ∧
        Numeral.Denotes 16 (digits.map Char.toLower) number.toNat := by
  have parsed (text : String) (number : Uint256) :
      parseQuantity text = .ok number ↔ ofQuantity text.toList = .ok number :=
    Outcome.mapError_eq_ok_iff
  refine ⟨?_, ?_, ?_⟩
  · intro number
    obtain ⟨lower, leading⟩ := render_lower number.toNat
    refine ⟨_, toList_toQuantity number, lower, ?_, ?_, Numeral.denotes_render (by decide) _,
      (parsed _ _).mpr (ofQuantity_toQuantity number)⟩
    · rintro rfl
      have zero : Numeral.digitsOf 16 (BitVec.toNat (0 : Uint256)) = [0] := Numeral.digitsOf_zero 16
      rw [Numeral.render, zero]
      rfl
    · intro nonzero first
      exact nonzero (BitVec.eq_of_toNat_eq (leading.mp first))
  · intro text
    simp only [parsed]
    exact exists_ofQuantity_iff
  · intro text number
    rw [parsed]
    exact ofQuantity_eq_ok_iff

end Uint256

end AccountRelay
