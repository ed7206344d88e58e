import AccountRelay.Input
import AccountRelay.Proofs.Amounts
import AccountRelay.Proofs.Numeral

/-! # Reading decimal numbers

Decimal digits are read from left to right as the number that they denote, or as none if it is out of
range on the way (`Uint256.ofDecimalFrom_eq_ok_iff`); since a longer number is never smaller, that is
when it is out of range at the end. So a text is read exactly when it is digits that denote a number
in range, and as that number (`Uint256.ofDecimal_eq_ok_iff`).
-/

namespace AccountRelay

namespace Numeral

/-- Digits behind a number do not make it smaller. -/
theorem le_foldl (number : Nat) (values : List Nat) :
    number ≤ values.foldl (fun number digit => number * 10 + digit) number := by
  induction values generalizing number with
  | nil => exact Nat.le_refl number
  | cons value rest ih => exact Nat.le_trans (by omega) (ih (number * 10 + value))

/-- Decimal texts have decimal digits only. -/
theorem forall_decimal_of_denotes {text : List Char} {number : Nat}
    (denotes : Denotes 10 text number) : ∀ c ∈ text, '0' ≤ c ∧ c ≤ '9' := by
  have figure : ∀ value < 10, '0' ≤ digit value ∧ digit value ≤ '9' := by decide
  obtain ⟨values, small, rfl, -⟩ := denotes
  intro c member
  obtain ⟨value, present, rfl⟩ := List.mem_map.mp member
  exact figure value (small value present)

end Numeral

namespace Uint256

variable {text : List Char}

/-- Digits are read as the number that they lead to from the number so far. -/
theorem ofDecimalFrom_eq_ok_iff {number result : Uint256} :
    ofDecimalFrom number text = .ok result ↔
      ∃ values : List Nat, (∀ value ∈ values, value < 10) ∧ text = values.map Numeral.digit ∧
        values.foldl (fun number digit => number * 10 + digit) number.toNat = result.toNat := by
  induction text generalizing number with
  | nil =>
    rw [ofDecimalFrom, Except.ok.injEq]
    constructor
    · rintro rfl
      exact ⟨[], nofun, rfl, rfl⟩
    · rintro ⟨values, -, none, same⟩
      rw [List.map_eq_nil_iff.mp none.symm] at same
      exact BitVec.eq_of_toNat_eq same
  | cons c rest ih =>
    constructor
    · intro read
      rw [ofDecimalFrom] at read
      split at read
      · cases read
      · rename_i value digit
        obtain ⟨small, rfl⟩ := Numeral.decimalDigit?_eq_some_iff.mp digit
        split at read
        · rename_i longer fits
          obtain ⟨values, all_small, rfl, same⟩ := ih.mp read
          refine ⟨value :: values, List.forall_mem_cons.mpr ⟨small, all_small⟩, rfl, ?_⟩
          rw [List.foldl_cons, ← ofNat?_eq_some.mp fits]
          exact same
        · cases read
    · rintro ⟨values, small, digits, same⟩
      cases values with
      | nil => cases digits
      | cons value values =>
        obtain ⟨rfl, rfl⟩ := List.cons_eq_cons.mp digits
        obtain ⟨value_small, all_small⟩ := List.forall_mem_cons.mp small
        rw [List.foldl_cons] at same
        have bound := Nat.le_trans (Numeral.le_foldl _ values) (Nat.le_of_eq same)
        have fits : ofNat? (number.toNat * 10 + value) =
            some (BitVec.ofNat 256 (number.toNat * 10 + value)) :=
          ofNat?_eq_some.mpr
            (toNat_ofNat (Nat.lt_of_le_of_lt bound result.isLt))
        have longer := ofNat?_eq_some.mp fits
        rw [ofDecimalFrom, Numeral.decimalDigit?_digit value value_small]
        simp only [fits]
        exact ih.mpr ⟨values, all_small, rfl, by rw [longer]; exact same⟩

/-- Decimal digits are read as the number that they denote, which is in range. -/
theorem ofDecimal_eq_ok_iff {number : Uint256} :
    ofDecimal text = .ok number ↔ Numeral.Denotes 10 text number.toNat := by
  rw [ofDecimal, ofDecimalFrom_eq_ok_iff, Numeral.Denotes]
  simp only [Numeral.ofDigits_reverse_eq_value]
  rfl

/-- A text is read exactly when it is decimal digits and denotes a number in range. -/
theorem exists_ofDecimal_iff :
    (∃ number, ofDecimal text = .ok number) ↔
      (∀ c ∈ text, '0' ≤ c ∧ c ≤ '9') ∧ ∃ number < 2 ^ 256, Numeral.Denotes 10 text number := by
  constructor
  · rintro ⟨number, read⟩
    have denotes := ofDecimal_eq_ok_iff.mp read
    exact ⟨Numeral.forall_decimal_of_denotes denotes, number.toNat, number.isLt, denotes⟩
  · rintro ⟨-, number, fits, denotes⟩
    refine ⟨BitVec.ofNat 256 number, ofDecimal_eq_ok_iff.mpr ?_⟩
    rwa [toNat_ofNat fits]

end Uint256

/-- An amount is read as its digits without the blanks around them. -/
theorem Input.amount_eq_ok_iff {field text : String} {amount : Uint256} :
    Input.amount field text = .ok amount ↔
      Uint256.ofDecimal (Text.trimmed text.toList) = .ok amount := by
  rw [Input.amount]
  cases Uint256.ofDecimal (Text.trimmed text.toList) with
  | ok other => simp
  | error fault => simp

end AccountRelay
