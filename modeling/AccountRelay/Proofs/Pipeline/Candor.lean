import AccountRelay.Pipeline
import AccountRelay.Proofs.Dialogue.Conduct
import AccountRelay.Proofs.Operation.Lossless

/-! # Who blames a width

A failure can come from a number that is too wide (`Failure.width?`). An answer is candid when it
reports such a failure only where a bundler cannot pack what it was handed (`ServiceRequest.Candid`).
With candid answers the stages of an attempt that come before anything is packed never fail for a
width, and they ask for no signature (`Dialogue.Plain`).
-/

namespace AccountRelay

/-- The number that was too wide, if that is what went wrong. -/
def Failure.width? (failure : Failure) : Option TooWide :=
  match failure.root with
  | .tooWide fault => some fault
  | _ => none

/-- A failure is for a width when that is at its root. -/
theorem Failure.width?_eq_some_iff {failure : Failure} {fault : TooWide} :
    failure.width? = some fault ↔ failure.root = .tooWide fault := by
  unfold width?
  split
  · rename_i own root
    rw [root]
    exact ⟨fun same => congrArg _ (Option.some.inj same),
      fun same => congrArg _ (Failure.tooWide.inj same)⟩
  · rename_i other
    exact ⟨nofun, fun root => absurd root (other fault)⟩

namespace ServiceRequest

/-- The failure that an answer reports, if it does. -/
def failure? : (request : ServiceRequest) → request.Answer → Option Failure
  | .codeAt _, reply | .gasPrice, reply | .chainId, reply | .balanceOf _, reply
  | .estimate _ _, reply | .send _ _, reply | .receipt _, reply | .priorityFee, reply
  | .counterfactualAddress _ _, reply | .createAccountCallData _ _, reply | .nonce _, reply
  | .operationHash _, reply | .paymasterHash _ _ _, reply | .fund _ _, reply
  | .tokenBalance _ _, reply | .ownerSign _, reply | .paymasterSign _, reply => Outcome.error? reply
  | .now, _ | .uptime, _ | .pause _, _ | .warn _, _ | .acquire _, _ | .release _, _ => none

/-- Whether an answer blames a width only where a bundler cannot pack what it was handed. -/
def Candid (request : ServiceRequest) (reply : request.Answer) : Prop :=
  ∀ failure fault, request.failure? reply = some failure → failure.width? = some fault →
    ∃ operation entryPoint, request = .send operation entryPoint ∧ operation.pack = .error fault

/-- Whether a question commits somebody to an operation: it asks for a signature, or hands the operation
to the bundler. -/
def IsCommitting : ServiceRequest → Prop
  | .ownerSign _ | .paymasterSign _ | .send _ _ => True
  | _ => False

/-- A candid answer to a question that hands nothing over is no failure for a width. -/
theorem Candid.width?_eq_none {request : ServiceRequest} {reply : request.Answer}
    (candid : request.Candid reply)
    (no_send : ∀ operation entryPoint, request ≠ .send operation entryPoint)
    {failure : Failure} (reports : request.failure? reply = some failure) : failure.width? = none := by
  cases blamed : failure.width? with
  | none => rfl
  | some fault =>
      obtain ⟨operation, entryPoint, same, -⟩ := candid failure fault reports blamed
      exact absurd same (no_send operation entryPoint)

end ServiceRequest

/-- The conduct of a consultation that commits nobody, among candid parties. -/
def plainConduct : Conduct Services Unit where
  permits _ request := ¬ request.IsCommitting
  expects := ServiceRequest.Candid
  next _ _ _ := ()

namespace Dialogue

variable {α β : Type}

/-- A consultation that commits nobody and does not fail for a width, and whose value satisfies a
condition. -/
def Plain (consultation : Consultation α) (holds : α → Prop) : Prop :=
  consultation.Keeps plainConduct (fun outcome _ => match outcome with
    | .ok value => holds value
    | .error failure => failure.width? = none) ()

namespace Plain

variable {consultation : Consultation α} {holds : α → Prop}

/-- An outcome is plain if its value satisfies the condition and its failure is not for a width. -/
theorem ofExcept {outcome : Except Failure α} (found : ∀ value, outcome = .ok value → holds value)
    (narrow : ∀ failure, outcome = .error failure → failure.width? = none) :
    Plain (.ofExcept outcome) holds := by
  cases outcome with
  | ok value => exact found value rfl
  | error failure => exact narrow failure rfl

/-- Plain work that goes on with plain work is plain. -/
theorem bind {holds' : β → Prop} {next : α → Consultation β} (plain : Plain consultation holds)
    (follows : ∀ value, holds value → Plain (next value) holds') :
    Plain (consultation >>= next) holds' :=
  Keeps.bind plain (fun value _ held => follows value held) fun _ _ narrow => narrow

/-- An attempt at plain work is plain, and so is what it found. -/
theorem attempt (plain : Plain consultation holds) :
    Plain (consultation.attempt : Consultation (Except Failure α)) fun outcome => match outcome with
      | .ok value => holds value
      | .error failure => failure.width? = none :=
  Keeps.attempt plain

/-- Work is as plain within a context. -/
theorem within (plain : Plain consultation holds) (context : Context) :
    Plain (Services.within context consultation) holds := by
  apply Keeps.mapError
  apply plain.mono
  rintro (failure | value) _ ended
  · exact ended
  · exact ended

/-- A question whose answer is passed on. -/
theorem question (request : ServiceRequest) (early : ¬ request.IsCommitting)
    (outcome : request.Answer → Except Failure α)
    (passed_on : ∀ reply failure, outcome reply = .error failure →
      request.failure? reply = some failure) :
    Plain (Services.asking request fun reply => .ofExcept (outcome reply)) fun _ => True := by
  refine ⟨early, ?_⟩
  intro reply candid
  apply ofExcept (fun _ _ => trivial)
  intro failure failed
  apply candid.width?_eq_none ?_ (passed_on reply failure failed)
  rintro operation entryPoint rfl
  exact early trivial

end Plain

end Dialogue

open Dialogue (Plain)

/-! ## Stages before anything is packed -/

namespace Services

/-- Reading code commits nobody, and does not fail for a width. -/
theorem plain_codeAt (account : Address) : (codeAt account).Plain fun _ => True :=
  .question (.codeAt account) not_false id (by rintro _ _ ⟨⟩; rfl)

/-- Asking for the gas price commits nobody, and does not fail for a width. -/
theorem plain_gasPrice : gasPrice.Plain fun _ => True :=
  .question .gasPrice not_false id (by rintro _ _ ⟨⟩; rfl)

/-- Asking for an estimate commits nobody, and does not fail for a width. -/
theorem plain_estimate (operation : Operation) (entryPoint : Address) :
    (estimate operation entryPoint).Plain fun _ => True :=
  .question (.estimate operation entryPoint) not_false id (by rintro _ _ ⟨⟩; rfl)

/-- Asking for the tip commits nobody, and does not fail for a width. -/
theorem plain_priorityFee : priorityFee.Plain fun _ => True :=
  .question .priorityFee not_false id (by rintro _ _ ⟨⟩; rfl)

/-- Deriving an address commits nobody, and does not fail for a width. -/
theorem plain_counterfactualAddress (owner : Address) (salt : Salt) :
    (counterfactualAddress owner salt).Plain fun _ => True :=
  .question (.counterfactualAddress owner salt) not_false id (by rintro _ _ ⟨⟩; rfl)

/-- Getting a wallet's deployment call data commits nobody, and does not fail for a width. -/
theorem plain_createAccountCallData (owner : Address) (salt : Salt) :
    (createAccountCallData owner salt).Plain fun _ => True :=
  .question (.createAccountCallData owner salt) not_false id (by rintro _ _ ⟨⟩; rfl)

/-- Reading a nonce commits nobody, and does not fail for a width. -/
theorem plain_nonce (sender : Address) : (nonce sender).Plain fun _ => True :=
  .question (.nonce sender) not_false id (by rintro _ _ ⟨⟩; rfl)

/-- Asking for the hash of an operation commits nobody, and does not fail for a width. -/
theorem plain_operationHash (operation : PackedOperation) :
    (operationHash operation).Plain fun _ => True :=
  .question (.operationHash operation) not_false id (by rintro _ _ ⟨⟩; rfl)

/-- Asking for the hash that a paymaster signs commits nobody, and does not fail for a width. -/
theorem plain_paymasterHash (paymaster : Address) (operation : PackedOperation)
    (window : ValidityWindow) : (paymasterHash paymaster operation window).Plain fun _ => True :=
  .question (.paymasterHash paymaster operation window) not_false id (by rintro _ _ ⟨⟩; rfl)

/-- Funding commits nobody to an operation, and does not fail for a width. -/
theorem plain_fund (account : Address) (amount : Uint256) : (fund account amount).Plain fun _ => True :=
  .question (.fund account amount) not_false id (by rintro _ _ ⟨⟩; rfl)

/-- Looking at the clock commits nobody, and does not fail for a width. -/
theorem plain_now : now.Plain fun _ => True := by
  refine ⟨not_false, ?_⟩
  intro (time : Int) _
  by_cases early : time < 0
  · simp only [early, ↓reduceIte]
    rfl
  · simp only [early, ↓reduceIte]
    trivial

/-- A warning commits nobody, and does not fail. -/
theorem plain_warn (warning : Warning) : (warn warning).Plain fun _ => True :=
  ⟨not_false, fun _ _ => trivial⟩

end Services

namespace Resolver

/-- Finding the sender is plain, whichever way the wallet is chosen. -/
theorem plain_senderAddress (resolver : Resolver) (wallet : WalletChoice) :
    (resolver.senderAddress wallet).Plain fun _ => True := by
  cases wallet with
  | derived salt => exact Services.plain_counterfactualAddress _ salt
  | existing sender => trivial

/-- Seeing whether there is code is plain. -/
theorem plain_isDeployed (address : Address) : (isDeployed address).Plain fun _ => True :=
  (Services.plain_codeAt address).bind fun _ _ => trivial

/-- An inspection is plain. -/
theorem plain_inspect (resolver : Resolver) (wallet : WalletChoice) :
    (resolver.inspect wallet).Plain fun _ => True := by
  cases wallet with
  | existing sender => exact (plain_isDeployed sender).bind fun _ _ => trivial
  | derived salt =>
      refine (Services.plain_counterfactualAddress _ salt).bind fun sender _ => ?_
      refine (plain_isDeployed sender).bind fun deployed _ => ?_
      cases deployed with
      | true => trivial
      | false => exact (Services.plain_createAccountCallData _ salt).bind fun _ _ => trivial

/-- The preparation of a wallet is plain. -/
theorem plain_prepare (resolver : Resolver) (resolution : Resolution) :
    (resolver.prepare resolution).Plain fun _ => True := by
  unfold prepare
  split
  · trivial
  · split
    · rfl
    · exact Services.plain_fund _ _

/-- Resolving a wallet is plain. -/
theorem plain_resolve (resolver : Resolver) (wallet : WalletChoice) :
    (resolver.resolve wallet).Plain fun _ => True :=
  (resolver.plain_inspect wallet).bind fun resolution _ =>
    (resolver.plain_prepare resolution).bind fun _ _ => trivial

end Resolver

namespace Gas

/-- Gas that cannot be raised is not a matter of width. -/
theorem width?_of_raised {gas : Uint256} {markup : UInt64} {failure : Failure}
    (overflows : raised gas markup = .error failure) : failure.width? = none := by
  unfold raised at overflows
  split at overflows
  · cases overflows
  · cases overflows
    rfl

/-- Fees that cannot be added up are not a matter of width. -/
theorem width?_of_fees {gasPrice priority : Uint256} {failure : Failure}
    (overflows : fees gasPrice priority = .error failure) : failure.width? = none := by
  unfold fees at overflows
  split at overflows
  · cases overflows
  · cases overflows
    rfl

end Gas

/-- Limits that cannot be raised are not a matter of width. -/
theorem GasPolicy.width?_of_limits {policy : GasPolicy} {estimate : GasLimits} {failure : Failure}
    (overflows : policy.limits estimate = .error failure) : failure.width? = none := by
  rcases Outcome.bind_eq_error overflows with failed | ⟨_, -, overflows⟩
  · exact Gas.width?_of_raised failed
  rcases Outcome.bind_eq_error overflows with failed | ⟨_, -, overflows⟩
  · exact Gas.width?_of_raised failed
  rcases Outcome.bind_eq_error overflows with failed | ⟨_, -, ⟨⟩⟩
  exact Gas.width?_of_raised failed

namespace Estimation

/-- Asking for an estimate and raising it is plain. -/
theorem plain_limits (policy : GasPolicy) (entryPoint : Address) (operation : Operation) :
    (limits policy entryPoint operation).Plain fun _ => True := by
  refine ((Services.plain_estimate _ entryPoint).within .gasEstimate).bind fun raw _ => ?_
  exact .ofExcept (fun _ _ => trivial) fun _ => GasPolicy.width?_of_limits

/-- Finding the fees is plain. -/
theorem plain_fees : fees.Plain fun _ => True := by
  refine (Services.plain_priorityFee.within .priorityFee).bind fun priority _ => ?_
  refine Services.plain_gasPrice.bind fun gasPrice _ => ?_
  exact .ofExcept (fun _ _ => trivial) fun _ => Gas.width?_of_fees

/-- An estimation does not fail for a width, and changes nothing but limits and fees. -/
theorem plain_apply (policy : GasPolicy) (entryPoint : Address) (operation : Operation) :
    (apply policy entryPoint operation).Plain fun result =>
      (∀ failure, result.outcome = .error failure → failure.width? = none) ∧
        ∃ gas fees, result.operation = { operation with gas, fees } := by
  refine (plain_limits policy entryPoint operation).attempt.bind fun limited narrow => ?_
  cases limited with
  | error failure =>
      refine ⟨?_, operation.gas, operation.fees, rfl⟩
      rintro _ ⟨⟩
      exact narrow
  | ok gas =>
      refine plain_fees.attempt.bind fun priced narrow => ?_
      cases priced with
      | error failure =>
          refine ⟨?_, gas, operation.fees, rfl⟩
          rintro _ ⟨⟩
          exact narrow
      | ok fees => exact ⟨nofun, gas, fees, rfl⟩

end Estimation

/-- Estimating is plain, and fills in gas and fees and nothing else. -/
theorem Draft.plain_estimate (draft : Draft .started) (policy : GasPolicy) (entryPoint : Address) :
    (draft.estimate policy entryPoint).Plain fun estimated =>
      ∃ gas fees, estimated.operation = { draft.operation with gas, fees } := by
  refine (Estimation.plain_apply policy entryPoint draft.operation).bind ?_
  rintro ⟨operation, failure | _⟩ ⟨narrow, written⟩
  · exact narrow failure rfl
  · exact written

end AccountRelay
