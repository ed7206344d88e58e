import AccountRelay.Authorization
import AccountRelay.Estimation
import AccountRelay.Resolution

/-! # Drafts

An operation is built in stages, and a `Draft` says in its type which stage it has reached: it is
started, then its gas is estimated, then its payment is settled by an authorization or by doing
without one, and only then is it signed. So no signature covers a placeholder. A stage that fails
leaves no draft behind.
-/

namespace AccountRelay

/-- How far an operation has been built. -/
inductive DraftStage
  | started
  | estimated
  | settled

/-- An operation at a stage of its building. -/
structure Draft (stage : DraftStage) where
  operation : Operation

/-- An operation that is signed, and the hash that the signature covers. -/
structure SignedOperation where
  operation : Operation
  hash : Hash

namespace Draft

/-- Starts an operation of a resolved wallet, with placeholders for gas and fees. -/
def start (wallet : Resolution) (nonce : Uint256) (callData : Bytes) : Draft .started where
  operation := {
    sender := wallet.sender
    nonce
    factory := wallet.init.map (·.1)
    factoryData := (wallet.init.map (·.2)).getD []
    callData
    gas := Gas.placeholderLimits
    fees := Gas.placeholderFees }

/-- Chooses who pays. The data stand in for the authorization. -/
def withPaymaster (draft : Draft .started) (paymaster : Address) (gas : PaymasterGas)
    (data : Bytes) : Draft .started where
  operation := { draft.operation with
    paymaster := some paymaster
    paymasterGas := gas
    paymasterData := data }

/-- Finds out gas and fees. -/
def estimate (draft : Draft .started) (policy : GasPolicy) (entryPoint : Address) :
    Consultation (Draft .estimated) := do
  let result ← Estimation.apply policy entryPoint draft.operation
  .ofExcept (result.outcome.map fun _ => ⟨result.operation⟩)

/-- Settles the payment with a fresh authorization. -/
def authorize (draft : Draft .estimated) (validity now : UInt64) :
    Consultation (Draft .settled × ValidityWindow) := do
  let (operation, window) ← Authorization.authorize validity now draft.operation
  return (⟨operation⟩, window)

/-- Settles that the wallet pays for itself, which is refused when a paymaster has been chosen. -/
def withoutPaymaster (draft : Draft .estimated) : Except Failure (Draft .settled) :=
  match draft.operation.activePaymaster with
  | some paymaster => .error (.notAuthorized paymaster)
  | none => .ok ⟨draft.operation⟩

/-- Has the owner sign the hash by which the entry point names the operation. -/
def sign (draft : Draft .settled) : Consultation SignedOperation := do
  let operation := { draft.operation with signature := [] }
  let packed ← .ofExcept (operation.pack.mapError .tooWide)
  let hash ← Services.operationHash packed
  let signature ← Services.within .ownerSigner (Services.ownerSign hash)
  return { operation := { operation with signature }, hash }

end Draft

end AccountRelay
