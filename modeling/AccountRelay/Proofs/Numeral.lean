import AccountRelay.Numeral
import Mathlib.Data.List.Induction
import Mathlib.Data.Nat.Digits.Defs

/-! # What digits denote

`Numeral.Denotes` ties a text of digits to the number that it denotes, by the positional value
`Nat.ofDigits`, and says nothing of how the text is read. The readers of one digit invert the writer
of one digit: the decimal one on the ten digits, the hexadecimal one on sixteen digits of either
case (`Numeral.decimalDigit?_eq_some_iff`, `Numeral.hexDigit?_eq_some_iff`). A number is written
with the digits that denote it, and zero is the only number whose first digit is zero
(`Numeral.denotes_render`, `Numeral.head?_digitsOf_eq_zero_iff`).
-/

namespace AccountRelay.Numeral

/-- The text is digits in a base, most significant first, that denote the number. No digits denote
zero. -/
def Denotes (base : Nat) (text : List Char) (number : Nat) : Prop :=
  ∃ values : List Nat, (∀ value ∈ values, value < base) ∧ text = values.map digit ∧
    Nat.ofDigits base values.reverse = number

/-- The value of a row of digits is the one Mathlib gives to the row read from its other end. -/
theorem ofDigits_reverse_eq_value (base : Nat) (values : List Nat) :
    Nat.ofDigits base values.reverse = value base values := by
  induction values using List.reverseRecOn with
  | nil => rfl
  | append_singleton values last ih =>
    rw [List.reverse_append, List.reverse_singleton, List.singleton_append, Nat.ofDigits_cons, ih,
      value_concat, Nat.add_comm, Nat.mul_comm]

/-- A number is below the power of the base with as many factors as it has digits. -/
theorem value_lt {base : Nat} (large : 1 < base) {values : List Nat}
    (small : ∀ value ∈ values, value < base) : value base values < base ^ values.length := by
  rw [← ofDigits_reverse_eq_value, ← List.length_reverse]
  exact Nat.ofDigits_lt_base_pow_length large fun value member =>
    small value (List.mem_reverse.mp member)

/-! ## One digit -/

/-- Where the characters of the sixteen digits stand. -/
theorem toNat_digit : ∀ value < 16,
    (digit value).toNat = if value < 10 then 48 + value else 87 + value := by decide

/-- Lower case moves the capital letters by 32 and nothing else. -/
theorem toNat_toLower (c : Char) :
    c.toLower.toNat = if 65 ≤ c.toNat ∧ c.toNat ≤ 90 then c.toNat + 32 else c.toNat := by
  have upper : c.val ≥ 'A'.val ∧ c.val ≤ 'Z'.val ↔ 65 ≤ c.toNat ∧ c.toNat ≤ 90 := Iff.rfl
  unfold Char.toLower
  split
  · rename_i inside
    rw [if_pos (upper.mp inside)]
    have below := (upper.mp inside).2
    change (c.val + ('a'.val - 'A'.val)).toNat = c.val.toNat + 32
    rw [UInt32.toNat_add]
    change c.toNat ≤ 90 at below
    change (c.toNat + 32) % 4294967296 = c.toNat + 32
    omega
  · rename_i outside
    rw [if_neg fun inside => outside (upper.mpr inside)]

/-- A digit is a decimal one exactly when it is the digit of a number below ten. -/
theorem decimalDigit?_eq_some_iff {c : Char} {value : Nat} :
    decimalDigit? c = some value ↔ value < 10 ∧ c = digit value := by
  constructor
  · intro read
    have range : '0' ≤ c ∧ c ≤ '9' ↔ 48 ≤ c.toNat ∧ c.toNat ≤ 57 := Iff.rfl
    simp only [decimalDigit?, range] at read
    split at read
    · rename_i inside
      cases read
      refine ⟨by omega, ?_⟩
      rw [digit, if_pos (by omega), show 48 + (c.toNat - 48) = c.toNat by omega, Char.ofNat_toNat]
    · cases read
  · rintro ⟨small, rfl⟩
    exact decimalDigit?_digit value small

/-- A digit is a hexadecimal one exactly when it is the digit of a number below sixteen, in either
case. -/
theorem hexDigit?_eq_some_iff {c : Char} {value : Nat} :
    hexDigit? c = some value ↔ value < 16 ∧ c.toLower = digit value := by
  have figure : '0' ≤ c ∧ c ≤ '9' ↔ 48 ≤ c.toNat ∧ c.toNat ≤ 57 := Iff.rfl
  have lower : 'a' ≤ c ∧ c ≤ 'f' ↔ 97 ≤ c.toNat ∧ c.toNat ≤ 102 := Iff.rfl
  have upper : 'A' ≤ c ∧ c ≤ 'F' ↔ 65 ≤ c.toNat ∧ c.toNat ≤ 70 := Iff.rfl
  have same (small : value < 16) : c.toLower = digit value ↔
      (if 65 ≤ c.toNat ∧ c.toNat ≤ 90 then c.toNat + 32 else c.toNat) =
        if value < 10 then 48 + value else 87 + value := by
    rw [← toNat_toLower, ← toNat_digit value small, Char.toNat_inj]
  simp only [hexDigit?, figure, lower, upper]
  constructor
  · intro read
    have small : value < 16 := by grind
    refine ⟨small, (same small).mpr ?_⟩
    grind
  · rintro ⟨small, digits⟩
    have numbers := (same small).mp digits
    grind

/-- Digits are written in lower case. -/
theorem toLower_digit {value : Nat} (small : value < 16) :
    (digit value).toLower = digit value :=
  (hexDigit?_eq_some_iff.mp (hexDigit?_digit value small)).2

/-! ## Digits one by one -/

section Reading

variable {read : Char → Option Nat} {text : List Char} {values : List Nat}

/-- A text is read character by character exactly when its first character and the rest are. -/
theorem mapM_cons_eq_some_iff {c : Char} :
    (c :: text).mapM read = some values ↔
      ∃ value others, read c = some value ∧ text.mapM read = some others ∧
        value :: others = values := by
  simp only [List.mapM_cons, bind, pure, Option.bind_eq_some_iff, Option.some.injEq]
  constructor
  · rintro ⟨value, here, others, behind, same⟩
    exact ⟨value, others, here, behind, same⟩
  · rintro ⟨value, others, here, behind, same⟩
    exact ⟨value, here, others, behind, same⟩

/-- Who reads one digit reads a text of digits, up to what the reader makes of a character. -/
theorem mapM_eq_some_iff (plain : Char → Char) {base : Nat}
    (reads : ∀ {c value}, read c = some value ↔ value < base ∧ plain c = digit value) :
    text.mapM read = some values ↔
      (∀ value ∈ values, value < base) ∧ text.map plain = values.map digit := by
  induction text generalizing values with
  | nil =>
    cases values with
    | nil => simp
    | cons value rest => simp
  | cons c rest ih =>
    rw [mapM_cons_eq_some_iff]
    constructor
    · rintro ⟨value, others, here, behind, rfl⟩
      obtain ⟨small, own⟩ := reads.mp here
      obtain ⟨all_small, digits⟩ := ih.mp behind
      exact ⟨List.forall_mem_cons.mpr ⟨small, all_small⟩, List.cons_eq_cons.mpr ⟨own, digits⟩⟩
    · rintro ⟨all_small, digits⟩
      cases values with
      | nil => cases digits
      | cons value others =>
        obtain ⟨small, others_small⟩ := List.forall_mem_cons.mp all_small
        obtain ⟨own, digits⟩ := List.cons_eq_cons.mp digits
        exact ⟨value, others, reads.mpr ⟨small, own⟩, ih.mpr ⟨others_small, digits⟩, rfl⟩

/-- The values of the decimal digits of a text. -/
theorem mapM_decimalDigit?_eq_some_iff :
    text.mapM decimalDigit? = some values ↔
      (∀ value ∈ values, value < 10) ∧ text = values.map digit := by
  have reads : text.mapM decimalDigit? = some values ↔
      (∀ value ∈ values, value < 10) ∧ text.map id = values.map digit :=
    mapM_eq_some_iff id decimalDigit?_eq_some_iff
  rwa [List.map_id] at reads

end Reading

/-! ## Numbers in digits -/

/-- A number is written with digits that denote it. -/
theorem denotes_render {base : Nat} (large : 1 < base) (number : Nat) :
    Denotes base (render base number) number :=
  ⟨digitsOf base number, digitsOf_lt large number, rfl,
    (ofDigits_reverse_eq_value ..).trans (value_digitsOf base number)⟩

/-- Every number has at least one digit. -/
theorem digitsOf_ne_nil (base number : Nat) : digitsOf base number ≠ [] := by
  unfold digitsOf
  split
  · simp
  · simp

/-- Zero has the one digit zero. -/
theorem digitsOf_zero (base : Nat) : digitsOf base 0 = [0] := by
  have short : base ≤ 1 ∨ 0 < base := by omega
  rw [digitsOf, dif_pos short]

/-- The first digit of a number is zero only if the number is. -/
theorem head?_digitsOf_eq_zero_iff {base number : Nat} :
    (digitsOf base number).head? = some 0 ↔ number = 0 := by
  fun_induction digitsOf base number with
  | case1 number short => simp
  | case2 number long ih =>
    have quotient : number / base ≠ 0 := by
      rw [Ne, Nat.div_eq_zero_iff]
      omega
    obtain ⟨first, rest, digits⟩ :=
      List.exists_cons_of_ne_nil (digitsOf_ne_nil base (number / base))
    rw [digits, List.head?_cons] at ih
    rw [digits, List.cons_append, List.head?_cons, ih]
    exact ⟨fun zero => absurd zero quotient, fun zero => by simp [zero]⟩

/-- Only the digit zero is written `0`. -/
theorem eq_zero_of_digit_eq : ∀ value < 16, digit value = '0' → value = 0 := by decide

end AccountRelay.Numeral
