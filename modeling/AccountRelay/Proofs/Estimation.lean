import AccountRelay.Estimation
import AccountRelay.Proofs.Dialogue.Histories
import AccountRelay.Proofs.LocalNet.Reference
import AccountRelay.Proofs.Outcome

/-! # What an estimation writes

An estimation asks for the gas, then for the tip and then for the gas price, and goes no further than the
first answer that it cannot use (`Estimation.ends_apply_iff`). Limits are written before the tip is asked
for. So an estimation that fails leaves the operation alone as long as no limits were found, and with
these limits when only the fees were not (`Estimation.written_by_apply`).
-/

namespace AccountRelay.Estimation

variable {policy : GasPolicy} {entryPoint : Address} {operation : Operation}
  {exchanges : List (Exchange Services)}

/-- The question for the gas of an operation, and an answer to it. -/
def probed (entryPoint : Address) (operation : Operation) (reply : Except Failure GasLimits) :
    Exchange Services :=
  ⟨.estimate { operation with signature := Gas.placeholderSignature } entryPoint, reply⟩

/-- How the fees are looked up: what is asked, and what comes of it. -/
inductive FeesCourse : List (Exchange Services) → Except Failure Fees → Prop
  | tip_refused (failure : Failure) :
    FeesCourse [⟨.priorityFee, (.error failure : Except Failure Uint256)⟩]
      (.error (.within .priorityFee failure))
  | price_refused (priority : Uint256) (failure : Failure) :
    FeesCourse [⟨.priorityFee, (.ok priority : Except Failure Uint256)⟩,
      ⟨.gasPrice, (.error failure : Except Failure Uint256)⟩] (.error failure)
  | answered {outcome : Except Failure Fees} (priority gasPrice : Uint256)
    (found : Gas.fees gasPrice priority = outcome) :
    FeesCourse [⟨.priorityFee, (.ok priority : Except Failure Uint256)⟩,
      ⟨.gasPrice, (.ok gasPrice : Except Failure Uint256)⟩] outcome

/-- How the limits are looked up. -/
inductive LimitsCourse (policy : GasPolicy) (entryPoint : Address) (operation : Operation) :
    List (Exchange Services) → Except Failure GasLimits → Prop
  | refused (failure : Failure) :
    LimitsCourse policy entryPoint operation [probed entryPoint operation (.error failure)]
      (.error (.within .gasEstimate failure))
  | answered {outcome : Except Failure GasLimits} (raw : GasLimits)
    (raised : policy.limits raw = outcome) :
    LimitsCourse policy entryPoint operation [probed entryPoint operation (.ok raw)] outcome

/-- The fees are found in one of their courses, and each of these can be taken. -/
theorem ends_fees_iff {outcome : Except Failure Fees} :
    fees.Ends exchanges outcome ↔ FeesCourse exchanges outcome := by
  constructor
  · rintro ⟨failure | priority, _, rfl, ended⟩
    · obtain ⟨rfl, rfl⟩ := ended
      exact .tip_refused failure
    · obtain ⟨failure | gasPrice, _, rfl, ended⟩ := ended
      · obtain ⟨rfl, rfl⟩ := ended
        exact .price_refused priority failure
      · obtain ⟨rfl, rfl⟩ := Dialogue.Ends.ofExcept ended
        exact .answered priority gasPrice rfl
  · rintro (failure | ⟨priority, failure⟩ | ⟨priority, gasPrice, rfl⟩)
    · exact ⟨_, [], rfl, rfl, rfl⟩
    · exact ⟨_, _, rfl, _, [], rfl, rfl, rfl⟩
    · exact ⟨_, _, rfl, _, [], rfl, .of_ofExcept _⟩

/-- The limits are found in one of their courses, and each of these can be taken. -/
theorem ends_limits_iff {outcome : Except Failure GasLimits} :
    (limits policy entryPoint operation).Ends exchanges outcome ↔
      LimitsCourse policy entryPoint operation exchanges outcome := by
  constructor
  · rintro ⟨failure | raw, _, rfl, ended⟩
    · obtain ⟨rfl, rfl⟩ := ended
      exact .refused failure
    · obtain ⟨rfl, rfl⟩ := Dialogue.Ends.ofExcept ended
      exact .answered raw rfl
  · rintro (failure | ⟨raw, rfl⟩)
    · exact ⟨_, [], rfl, rfl, rfl⟩
    · exact ⟨_, [], rfl, .of_ofExcept _⟩

/-- An operation is left alone when its limits are not found, and carries them from then on. -/
theorem ends_apply_iff {outcome : Except Failure Result} :
    (apply policy entryPoint operation).Ends exchanges outcome ↔
      (∃ failure, LimitsCourse policy entryPoint operation exchanges (.error failure) ∧
        outcome = .ok ⟨operation, .error failure⟩) ∨
      ∃ first rest gas, exchanges = first ++ rest ∧
        LimitsCourse policy entryPoint operation first (.ok gas) ∧
        ((∃ failure, FeesCourse rest (.error failure) ∧
            outcome = .ok ⟨{ operation with gas }, .error failure⟩) ∨
          ∃ fees, FeesCourse rest (.ok fees) ∧
            outcome = .ok ⟨{ operation with gas, fees }, .ok ()⟩) := by
  constructor
  · intro ends
    rcases ends.bind with ⟨_, -, failed⟩ | ⟨first, rest, _, rfl, attempted, ended⟩
    · obtain ⟨_, ⟨⟩, -⟩ := failed.attempt
    obtain ⟨failure | gas, ⟨⟩, limited⟩ := attempted.attempt
    · obtain ⟨rfl, rfl⟩ := ended
      rw [List.append_nil]
      exact .inl ⟨failure, ends_limits_iff.mp limited, rfl⟩
    · refine .inr ⟨first, rest, gas, rfl, ends_limits_iff.mp limited, ?_⟩
      rcases ended.bind with ⟨_, -, failed⟩ | ⟨second, last, _, rfl, attempted, ended⟩
      · obtain ⟨_, ⟨⟩, -⟩ := failed.attempt
      obtain ⟨failure | found, ⟨⟩, priced⟩ := attempted.attempt
      · obtain ⟨rfl, rfl⟩ := ended
        rw [List.append_nil]
        exact .inl ⟨failure, ends_fees_iff.mp priced, rfl⟩
      · obtain ⟨rfl, rfl⟩ := ended
        rw [List.append_nil]
        exact .inr ⟨found, ends_fees_iff.mp priced, rfl⟩
  · rintro (⟨failure, limited, rfl⟩ | ⟨first, rest, gas, rfl, limited, priced⟩)
    · rw [← List.append_nil exchanges]
      exact (ends_limits_iff.mpr limited).of_attempt.of_bind ⟨rfl, rfl⟩
    · apply (ends_limits_iff.mpr limited).of_attempt.of_bind
      rcases priced with ⟨failure, priced, rfl⟩ | ⟨found, priced, rfl⟩
      · rw [← List.append_nil rest]
        exact (ends_fees_iff.mpr priced).of_attempt.of_bind ⟨rfl, rfl⟩
      · rw [← List.append_nil rest]
        exact (ends_fees_iff.mpr priced).of_attempt.of_bind ⟨rfl, rfl⟩

/-- **An estimation writes its limits before it knows the fees.** However its questions are answered, an
estimation that succeeds has asked for the gas, the tip and the gas price, and has written the limits
and the fees that come of these answers, and nothing else. One that fails because the estimate is
refused or does not fit when it is raised leaves the operation alone. One that fails later, because it
does not find out the tip or the gas price or because their sum does not fit, leaves the operation
with the new limits and with the fees that it had. -/
theorem written_by_apply {outcome : Except Failure Result}
    (ends : (apply policy entryPoint operation).Ends exchanges outcome) :
    ∃ result, outcome = .ok result ∧
      ((result.outcome = .ok () ∧ ∃ raw priority gasPrice gas fees,
          exchanges = [probed entryPoint operation (.ok raw),
            ⟨.priorityFee, (.ok priority : Except Failure Uint256)⟩,
            ⟨.gasPrice, (.ok gasPrice : Except Failure Uint256)⟩] ∧
          policy.limits raw = .ok gas ∧ Gas.fees gasPrice priority = .ok fees ∧
          result.operation = { operation with gas, fees }) ∨
        (∃ failure, result.outcome = .error failure ∧
          LimitsCourse policy entryPoint operation exchanges (.error failure) ∧
          result.operation = operation) ∨
        ∃ failure raw gas rest, result.outcome = .error failure ∧
          exchanges = probed entryPoint operation (.ok raw) :: rest ∧
          policy.limits raw = .ok gas ∧ FeesCourse rest (.error failure) ∧
          result.operation = { operation with gas }) := by
  rcases ends_apply_iff.mp ends with
    ⟨failure, limited, rfl⟩ | ⟨_, rest, gas, rfl, limited, priced⟩
  · exact ⟨_, rfl, .inr (.inl ⟨failure, rfl, limited, rfl⟩)⟩
  · cases limited with | answered raw raised =>
    rcases priced with ⟨failure, priced, rfl⟩ | ⟨fees, priced, rfl⟩
    · exact ⟨_, rfl, .inr (.inr ⟨failure, raw, gas, rest, rfl, rfl, raised, priced, rfl⟩)⟩
    · cases priced with | answered priority gasPrice found =>
      exact ⟨_, rfl, .inl ⟨rfl, raw, priority, gasPrice, gas, fees, rfl, raised, found, rfl⟩⟩

/-- A net whose gas price leaves no room for a tip. -/
def steepNet : LocalNet :=
  { LocalNet.obliging with gasPrice := BitVec.allOnes 256 }

/-- An operation that is yet to be estimated. -/
def unestimated : Operation where
  sender := .filled 20 0x11
  nonce := 0
  gas := Gas.placeholderLimits
  fees := Gas.placeholderFees

/-- The fees of an operation do not fit, after its limits have been written. -/
theorem written_by_apply_without_fees : ∃ exchanges result,
    (apply {} LocalNet.entryPoint unestimated).Ends exchanges (.ok result) ∧
    result.outcome = .error .feeOverflow ∧ ∃ gas, result.operation = { unestimated with gas } := by
  obtain ⟨exchanges, ends⟩ := Dialogue.exists_ends_run LocalNet.answer
    (apply {} LocalNet.entryPoint unestimated) steepNet
  have runs : (steepNet.consult (apply {} LocalNet.entryPoint unestimated)).1 =
      .ok ⟨{ unestimated with gas := ⟨220000, 110000, 110000⟩ }, .error .feeOverflow⟩ := rfl
  rw [show Dialogue.run _ _ _ = steepNet.consult _ from rfl, runs] at ends
  obtain ⟨_, ⟨⟩, ⟨impossible, -⟩ | ⟨_, -, -, impossible⟩ | ⟨_, _, gas, _, -, -, -, -, same⟩⟩ :=
    written_by_apply ends
  · cases impossible
  · exact absurd impossible (by decide)
  · exact ⟨exchanges, _, ends, rfl, gas, same⟩

/-- An operation is not what it was before an estimation that failed. -/
theorem changed_by_failed_apply : ∃ result,
    (steepNet.consult (apply {} LocalNet.entryPoint unestimated)).1 = .ok result ∧
    result.outcome = .error .feeOverflow ∧ result.operation ≠ unestimated :=
  ⟨_, rfl, rfl, by decide⟩

end AccountRelay.Estimation
