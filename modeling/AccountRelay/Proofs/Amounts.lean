import AccountRelay.Gas
import AccountRelay.Proofs.Outcome
import AccountRelay.Sponsorship

/-! # Amounts and times that fit

Gas limits, fees and windows are computed from numbers that may be too large. Each computation
succeeds exactly when the result, taken as a natural number, is in range, and gives that result
(`Gas.raised_eq_ok_iff`, `Gas.fees_eq_ok_iff`, `ValidityWindow.startingAt_eq_ok_iff`). Limits, fees
and windows are known by the numbers in them.
-/

namespace AccountRelay

/-- A number that fits into a word is the number of its word. -/
theorem Uint256.toNat_ofNat {number : Nat} (fits : number < 2 ^ 256) :
    (BitVec.ofNat 256 number).toNat = number := by
  rw [BitVec.toNat_ofNat, Nat.mod_eq_of_lt fits]

/-- A limit is raised exactly when the product fits into a word, and then to its ten-thousandth,
rounded down. -/
theorem Gas.raised_eq_ok_iff {gas limit : Uint256} {markup : UInt64} :
    raised gas markup = .ok limit ↔
      gas.toNat * markup.toNat < 2 ^ 256 ∧ limit.toNat = gas.toNat * markup.toNat / 10000 := by
  have factor : (BitVec.ofNat 256 markup.toNat).toNat = markup.toNat :=
    Uint256.toNat_ofNat (Nat.lt_trans markup.toNat_lt (by decide))
  unfold raised
  split
  · rename_i product multiplied
    have value := Uint256.checkedMul_eq_some.mp multiplied
    rw [factor] at value
    have fits := product.isLt
    rw [value] at fits
    have quotient : (BitVec.ofNat 256 (gas.toNat * markup.toNat / 10000)).toNat =
        gas.toNat * markup.toNat / 10000 :=
      Uint256.toNat_ofNat (Nat.lt_of_le_of_lt (Nat.div_le_self _ _) fits)
    rw [value]
    constructor
    · intro same
      rw [← Except.ok.inj same]
      exact ⟨fits, quotient⟩
    · rintro ⟨-, same⟩
      exact congrArg _ (BitVec.eq_of_toNat_eq (quotient.trans same.symm))
  · rename_i wide
    refine ⟨nofun, ?_⟩
    rintro ⟨fits, -⟩
    have product : Uint256.checkedMul gas (BitVec.ofNat 256 markup.toNat) =
        some (BitVec.ofNat 256 (gas.toNat * markup.toNat)) := by
      rw [Uint256.checkedMul_eq_some, factor]
      exact Uint256.toNat_ofNat fits
    rw [product] at wide
    cases wide

/-- The limits that an estimate becomes, of which each is raised. -/
theorem GasPolicy.limits_eq_ok_iff {policy : GasPolicy} {estimate gas : GasLimits} :
    policy.limits estimate = .ok gas ↔
      Gas.raised estimate.preVerification policy.markup = .ok gas.preVerification ∧
      Gas.raised estimate.call policy.markup = .ok gas.call ∧
      Gas.raised estimate.verification policy.markup = .ok gas.verification := by
  unfold limits
  simp only [Outcome.bind_eq_ok_iff, Outcome.pure_eq_ok_iff]
  constructor
  · rintro ⟨_, preVerification, _, call, _, verification, rfl⟩
    exact ⟨preVerification, call, verification⟩
  · rintro ⟨preVerification, call, verification⟩
    exact ⟨_, preVerification, _, call, _, verification, rfl⟩

/-- Where the three products fit, the policy sets all three limits. -/
theorem GasPolicy.exists_limits {policy : GasPolicy} {estimate : GasLimits}
    (preVerification : estimate.preVerification.toNat * policy.markup.toNat < 2 ^ 256)
    (call : estimate.call.toNat * policy.markup.toNat < 2 ^ 256)
    (verification : estimate.verification.toNat * policy.markup.toNat < 2 ^ 256) :
    ∃ gas, policy.limits estimate = .ok gas := by
  have raised : ∀ {gas : Uint256}, gas.toNat * policy.markup.toNat < 2 ^ 256 →
      Gas.raised gas policy.markup =
        .ok (BitVec.ofNat 256 (gas.toNat * policy.markup.toNat / 10000)) := by
    intro gas fits
    exact Gas.raised_eq_ok_iff.mpr
      ⟨fits, Uint256.toNat_ofNat (Nat.lt_of_le_of_lt (Nat.div_le_self _ _) fits)⟩
  exact ⟨⟨_, _, _⟩, limits_eq_ok_iff.mpr ⟨raised preVerification, raised call, raised verification⟩⟩

/-- The fees are computed exactly when price and priority have a sum that fits, which is then the
maximum. -/
theorem Gas.fees_eq_ok_iff {gasPrice priority : Uint256} {result : Fees} :
    fees gasPrice priority = .ok result ↔
      result.max.toNat = gasPrice.toNat + priority.toNat ∧ result.priority = priority := by
  unfold fees
  split
  · rename_i max added
    have value := Uint256.checkedAdd_eq_some.mp added
    constructor
    · intro same
      rw [← Except.ok.inj same]
      exact ⟨value, rfl⟩
    · rintro ⟨sum, rfl⟩
      rw [← value] at sum
      rw [← BitVec.eq_of_toNat_eq sum]
  · rename_i wide
    refine ⟨nofun, ?_⟩
    rintro ⟨sum, -⟩
    rw [Uint256.checkedAdd_eq_some.mpr sum] at wide
    cases wide

/-- Where price and priority have a sum that fits, there are fees. -/
theorem Gas.exists_fees {gasPrice priority : Uint256}
    (fits : gasPrice.toNat + priority.toNat < 2 ^ 256) :
    ∃ result, fees gasPrice priority = .ok result :=
  ⟨⟨_, _⟩, fees_eq_ok_iff.mpr ⟨Uint256.toNat_ofNat fits, rfl⟩⟩

/-- A window opens now and lasts for the given time, exactly when it ends within 48 bits. -/
theorem ValidityWindow.startingAt_eq_ok_iff {now validity : UInt64} {window : ValidityWindow} :
    startingAt now validity = .ok window ↔
      now.toNat + validity.toNat ≤ lastTime ∧
        window.validUntil.toNat = now.toNat + validity.toNat ∧ window.validAfter = now := by
  have last : lastTime = 281474976710655 := rfl
  simp only [startingAt]
  split
  · rename_i timely
    have small : now.toNat + validity.toNat < 2 ^ 64 := by omega
    constructor
    · intro same
      rw [← Except.ok.inj same]
      exact ⟨timely, UInt64.toNat_ofNat_of_lt small, rfl⟩
    · rintro ⟨-, until_sum, rfl⟩
      refine congrArg _ ?_
      cases window
      rw [← until_sum]
      simp
  · rename_i late
    exact ⟨nofun, fun known => absurd known.1 late⟩

/-- A window that ends within 48 bits can be opened. -/
theorem ValidityWindow.exists_startingAt {now validity : UInt64}
    (timely : now.toNat + validity.toNat ≤ 2 ^ 48 - 1) :
    ∃ window, startingAt now validity = .ok window := by
  have fits : now.toNat + validity.toNat ≤ lastTime := timely
  simp [startingAt, fits]

/-- A window is refused for one reason only, that it would end beyond 48 bits. -/
theorem ValidityWindow.startingAt_eq_error_iff {now validity : UInt64} {failure : Failure} :
    startingAt now validity = .error failure ↔
      failure = .windowTooLate ∧ lastTime < now.toNat + validity.toNat := by
  simp only [startingAt]
  split
  · rename_i timely
    exact ⟨nofun, fun known => absurd known.2 (Nat.not_lt.mpr timely)⟩
  · rename_i late
    constructor
    · rintro ⟨⟩
      exact ⟨rfl, Nat.not_le.mp late⟩
    · rintro ⟨rfl, -⟩
      rfl

/-- Limits with the same numbers are the same. -/
theorem GasLimits.eq_of_toNat_eq {left right : GasLimits}
    (preVerification : left.preVerification.toNat = right.preVerification.toNat)
    (call : left.call.toNat = right.call.toNat)
    (verification : left.verification.toNat = right.verification.toNat) : left = right := by
  cases left
  cases right
  rw [GasLimits.mk.injEq]
  exact ⟨BitVec.eq_of_toNat_eq preVerification, BitVec.eq_of_toNat_eq call,
    BitVec.eq_of_toNat_eq verification⟩

/-- Fees with the same maximum, as a number, and the same priority are the same. -/
theorem Fees.eq_of_max_eq {left right : Fees} (max : left.max.toNat = right.max.toNat)
    (priority : left.priority = right.priority) : left = right := by
  cases left
  cases right
  rw [Fees.mk.injEq]
  exact ⟨BitVec.eq_of_toNat_eq max, priority⟩

/-- Windows with the same end, as a number, and the same start are the same. -/
theorem ValidityWindow.eq_of_bounds_eq {left right : ValidityWindow}
    (validUntil : left.validUntil.toNat = right.validUntil.toNat)
    (validAfter : left.validAfter = right.validAfter) : left = right := by
  cases left
  cases right
  rw [ValidityWindow.mk.injEq]
  exact ⟨UInt64.toNat_inj.mp validUntil, validAfter⟩

end AccountRelay
