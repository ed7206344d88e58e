import AccountRelay.Deployment.Basic
import AccountRelay.Operation.Hash
import AccountRelay.Submission

/-! # From a request to a submitted operation

`Pipeline.send` takes a request through all stages while it holds the sender's lock: from before the
nonce is read until the bundler has answered. Any failure ends the attempt.
-/

namespace AccountRelay

/-- A deployment, and the account of the key that owns the wallets. -/
structure Pipeline where
  deployment : Deployment
  owner : Address

namespace Pipeline

/-- What wallets are derived and deployed with. -/
def resolver (pipeline : Pipeline) : Resolver where
  owner := pipeline.owner
  factory := pipeline.deployment.accountFactory
  initialFunding := pipeline.deployment.initialFunding

/-- The operation that a request starts with; the zero address pays for nothing. -/
def draft (pipeline : Pipeline) (request : Request) (wallet : Resolution) (nonce : Uint256) :
    Draft .started :=
  let draft := Draft.start wallet nonce request.callData
  match request.paymaster.filter fun paymaster => !paymaster.isZero with
  | some paymaster =>
    draft.withPaymaster paymaster pipeline.deployment.paymasterGas request.paymasterData
  | none => draft

/-- Settles who pays: with an authorization from now on when the request names a paymaster. -/
def settle (pipeline : Pipeline) (request : Request) (draft : Draft .estimated) :
    Consultation (Draft .settled) :=
  match request.paymaster.filter fun paymaster => !paymaster.isZero with
  | some _ => do
    let now ← Services.now
    let (settled, _) ← draft.authorize pipeline.deployment.paymasterValidity now
    return settled
  | none => .ofExcept draft.withoutPaymaster

/-- Warns when the hash computed here is not the one that was signed. -/
def crossCheck (pipeline : Pipeline) (signed : SignedOperation) : Consultation Unit := do
  let packed ← .ofExcept (signed.operation.pack.mapError .tooWide)
  if packed.hash pipeline.deployment.entryPoint pipeline.deployment.chainId ≠ signed.hash then
    Services.warn .localHash

/-- Builds, signs and submits the operation of a request, for a sender whose lock is held. -/
def sendLocked (pipeline : Pipeline) (request : Request) : Consultation Hash := do
  let wallet ← pipeline.resolver.resolve request.wallet
  let nonce ← Services.nonce wallet.sender
  let draft := pipeline.draft request wallet nonce
  let estimated ← draft.estimate pipeline.deployment.gasPolicy pipeline.deployment.entryPoint
  let settled ← pipeline.settle request estimated
  let signed ← settled.sign
  pipeline.crossCheck signed
  Submission.submit pipeline.deployment.entryPoint signed

/-- Builds, signs and submits the operation of a request; the answer is the hash by which the
bundler names it. -/
def send (pipeline : Pipeline) (request : Request) : Consultation Hash := do
  let sender ← pipeline.resolver.senderAddress request.wallet
  Services.holding sender (pipeline.sendLocked request)

end Pipeline

end AccountRelay
