import AccountRelay.Proofs.Estimation
import AccountRelay.Proofs.Operation.Lossless

/-! # Gas without wrapping

A limit is its estimate times the markup, rounded down, and the most that is paid for gas is the gas
price plus the tip, both as natural numbers. Where these do not fit there is no limit and no fee
(`GasPolicy.exists_limits_iff`, `Estimation.exists_ends_fees_iff`). So greater estimates and markups
give greater limits (`Gas.raised_mono`), and a tip is never more than the whole
(`Gas.priority_le_max_of_fees`), also in the word that the two fees share (`Gas.never_wraps`).
-/

namespace AccountRelay

namespace Gas

/-- A greater estimate and a greater markup never give a smaller limit. -/
theorem raised_mono {gas greater limit greaterLimit : Uint256} {markup greaterMarkup : UInt64}
    (raises : raised gas markup = .ok limit)
    (raises_greater : raised greater greaterMarkup = .ok greaterLimit) (le : gas ≤ greater)
    (markup_le : markup ≤ greaterMarkup) : limit ≤ greaterLimit := by
  have quotient := (raised_eq_ok_iff.mp raises).2
  have greater_quotient := (raised_eq_ok_iff.mp raises_greater).2
  rw [BitVec.le_def, quotient, greater_quotient]
  exact Nat.div_le_div_right (Nat.mul_le_mul le markup_le)

/-- A markup of one or more lowers nothing. -/
theorem le_raised {gas limit : Uint256} {markup : UInt64} (raises : raised gas markup = .ok limit)
    (whole : 10000 ≤ markup) : gas ≤ limit := by
  have quotient := (raised_eq_ok_iff.mp raises).2
  rw [BitVec.le_def, quotient, Nat.le_div_iff_mul_le (by decide)]
  exact Nat.mul_le_mul_left _ whole

/-- The priority fee never exceeds the maximum that is computed from it. -/
theorem priority_le_max_of_fees {gasPrice priority : Uint256} {result : Fees}
    (found : fees gasPrice priority = .ok result) : result.priority ≤ result.max := by
  obtain ⟨sum, rfl⟩ := fees_eq_ok_iff.mp found
  rw [BitVec.le_def, sum]
  exact Nat.le_add_left _ _

/-- There are fees exactly when gas price and priority have a sum that fits. -/
theorem exists_fees_iff {gasPrice priority : Uint256} :
    (∃ result, fees gasPrice priority = .ok result) ↔ gasPrice.toNat + priority.toNat < 2 ^ 256 := by
  constructor
  · rintro ⟨result, found⟩
    have sum := (fees_eq_ok_iff.mp found).1
    rw [← sum]
    exact result.max.isLt
  · exact exists_fees

end Gas

/-- The amounts of gas of the three phases of an operation. -/
def GasLimits.phases : List (GasLimits → Uint256) :=
  [GasLimits.preVerification, GasLimits.call, GasLimits.verification]

namespace GasPolicy

variable {policy : GasPolicy} {estimate limits : GasLimits}

/-- The phases are raised alike. -/
theorem raised_of_limits (raises : policy.limits estimate = .ok limits) :
    ∀ phase ∈ GasLimits.phases, Gas.raised (phase estimate) policy.markup = .ok (phase limits) := by
  obtain ⟨preVerification, call, verification⟩ := limits_eq_ok_iff.mp raises
  simp only [GasLimits.phases, List.forall_mem_cons]
  exact ⟨preVerification, call, verification, List.forall_mem_nil _⟩

/-- There are limits exactly when the product of every phase fits. -/
theorem exists_limits_iff :
    (∃ limits, policy.limits estimate = .ok limits) ↔
      ∀ phase ∈ GasLimits.phases, (phase estimate).toNat * policy.markup.toNat < 2 ^ 256 := by
  constructor
  · rintro ⟨limits, raises⟩ phase among
    exact (Gas.raised_eq_ok_iff.mp (raised_of_limits raises phase among)).1
  · intro fits
    simp only [GasLimits.phases, List.forall_mem_cons] at fits
    obtain ⟨preVerification, call, verification, -⟩ := fits
    exact exists_limits preVerification call verification

end GasPolicy

namespace Estimation

/-- The questions for the fees, both answered. -/
def priced (priority gasPrice : Uint256) : List (Exchange Services) :=
  [⟨.priorityFee, (.ok priority : Except Failure Uint256)⟩,
    ⟨.gasPrice, (.ok gasPrice : Except Failure Uint256)⟩]

/-- A gas price and a priority that are told come to the fees computed from them. -/
theorem ends_fees_priced_iff {priority gasPrice : Uint256} {outcome : Except Failure Fees} :
    fees.Ends (priced priority gasPrice) outcome ↔ Gas.fees gasPrice priority = outcome := by
  rw [ends_fees_iff]
  constructor
  · rintro ⟨⟩
    assumption
  · exact .answered priority gasPrice

/-- The node's prices come to fees exactly when they have a sum that fits. -/
theorem exists_ends_fees_iff {priority gasPrice : Uint256} :
    (∃ result, fees.Ends (priced priority gasPrice) (.ok result)) ↔
      gasPrice.toNat + priority.toNat < 2 ^ 256 := by
  simp only [ends_fees_priced_iff]
  exact Gas.exists_fees_iff

/-- The fees of an operation that was estimated are the sum of some gas price and tip, and this tip. -/
theorem exists_fees_of_apply {policy : GasPolicy} {entryPoint : Address} {operation : Operation}
    {exchanges : List (Exchange Services)} {result : Result}
    (ends : (apply policy entryPoint operation).Ends exchanges (.ok result))
    (completes : result.outcome = .ok ()) :
    ∃ gasPrice priority, Gas.fees gasPrice priority = .ok result.operation.fees := by
  rcases ends_apply_iff.mp ends with ⟨failure, -, ⟨⟩⟩ | ⟨_, rest, gas, -, -, priced⟩
  · cases completes
  · rcases priced with ⟨failure, -, ⟨⟩⟩ | ⟨fees, priced, ⟨⟩⟩
    · cases completes
    · cases priced with
      | answered priority gasPrice found => exact ⟨gasPrice, priority, found⟩

end Estimation

/-- **Gas is computed exactly.** An estimate becomes limits exactly when the product of each of its
amounts and the markup is below `2 ^ 256`; then each limit is this product divided by ten thousand,
rounded down, and not below the estimate when the markup is ten thousand or more. A limit does not
fall when its estimate or the markup grows. For a gas price and a tip there are fees exactly when
their sum is below `2 ^ 256`, and this sum and the tip are the fees. So an operation that has been
estimated pays no tip beyond its maximal fee, and when it packs, its fees share a word in this
order. -/
theorem Gas.never_wraps :
    (∀ (policy : GasPolicy) (estimate : GasLimits),
      ((∃ limits, policy.limits estimate = .ok limits) ↔
        ∀ phase ∈ GasLimits.phases, (phase estimate).toNat * policy.markup.toNat < 2 ^ 256) ∧
      ∀ limits, policy.limits estimate = .ok limits → ∀ phase ∈ GasLimits.phases,
        (phase limits).toNat = (phase estimate).toNat * policy.markup.toNat / 10000 ∧
        (10000 ≤ policy.markup → phase estimate ≤ phase limits) ∧
        ∀ (other : GasPolicy) (greater greaterLimits : GasLimits),
          other.limits greater = .ok greaterLimits → policy.markup ≤ other.markup →
          phase estimate ≤ phase greater → phase limits ≤ phase greaterLimits) ∧
    (∀ gasPrice priority : Uint256,
      ((∃ result, Estimation.fees.Ends (Estimation.priced priority gasPrice) (.ok result)) ↔
        gasPrice.toNat + priority.toNat < 2 ^ 256) ∧
      ∀ result, Estimation.fees.Ends (Estimation.priced priority gasPrice) (.ok result) →
        result.max.toNat = gasPrice.toNat + priority.toNat ∧ result.priority = priority) ∧
    ∀ (policy : GasPolicy) (entryPoint : Address) (operation : Operation)
      (exchanges : List (Exchange Services)) (result : Estimation.Result),
      (Estimation.apply policy entryPoint operation).Ends exchanges (.ok result) →
      result.outcome = .ok () →
      result.operation.fees.priority ≤ result.operation.fees.max ∧
      ∀ packed, result.operation.pack = .ok packed →
        packed.gasFees.high = result.operation.fees.priority.toNat ∧
        packed.gasFees.low = result.operation.fees.max.toNat ∧
        packed.gasFees.high ≤ packed.gasFees.low := by
  refine ⟨?limits, ?fees, ?estimated⟩
  case limits =>
    intro policy estimate
    refine ⟨GasPolicy.exists_limits_iff, ?_⟩
    intro limits raises phase among
    have raised := GasPolicy.raised_of_limits raises phase among
    refine ⟨(raised_eq_ok_iff.mp raised).2, le_raised raised, ?_⟩
    intro other greater greaterLimits raises_greater markup_le le
    exact raised_mono raised (GasPolicy.raised_of_limits raises_greater phase among) le markup_le
  case fees =>
    intro gasPrice priority
    refine ⟨Estimation.exists_ends_fees_iff, ?_⟩
    intro result ends
    exact fees_eq_ok_iff.mp (Estimation.ends_fees_priced_iff.mp ends)
  case estimated =>
    intro policy entryPoint operation exchanges result ends completes
    obtain ⟨gasPrice, priority, found⟩ := Estimation.exists_fees_of_apply ends completes
    have le := priority_le_max_of_fees found
    refine ⟨le, ?_⟩
    intro packed packs
    have holds := Operation.holds_of_pack packs
    refine ⟨holds.priority, holds.max, ?_⟩
    rw [holds.priority, holds.max]
    exact le

/-- An estimation that completes, of an operation that packs: the tip is in the high half. -/
theorem Gas.never_wraps_estimated : ∃ exchanges result packed,
    (Estimation.apply {} LocalNet.entryPoint Estimation.unestimated).Ends exchanges (.ok result) ∧
    result.outcome = .ok () ∧ result.operation.pack = .ok packed ∧
    packed.gasFees.high = 1500000000 ∧ packed.gasFees.low = 3500000000 ∧
    packed.gasFees.high ≤ packed.gasFees.low := by
  obtain ⟨exchanges, ends⟩ := Dialogue.exists_ends_run LocalNet.answer
    (Estimation.apply {} LocalNet.entryPoint Estimation.unestimated) .obliging
  have runs : (LocalNet.obliging.consult
      (Estimation.apply {} LocalNet.entryPoint Estimation.unestimated)).1 =
      .ok ⟨{ Estimation.unestimated with
        gas := ⟨220000, 110000, 110000⟩
        fees := ⟨3500000000, 1500000000⟩ }, .ok ()⟩ := rfl
  rw [show Dialogue.run _ _ _ = LocalNet.obliging.consult _ from rfl, runs] at ends
  obtain ⟨-, -, estimated⟩ := never_wraps
  obtain ⟨-, halves⟩ := estimated {} LocalNet.entryPoint Estimation.unestimated exchanges _ ends rfl
  obtain ⟨high, low, le⟩ := halves _ rfl
  exact ⟨exchanges, _, _, ends, rfl, rfl, high, low, le⟩

end AccountRelay
