import AccountRelay.Bundler.Reply
import AccountRelay.Dialogue
import AccountRelay.Operation.Packed
import AccountRelay.Sponsorship

/-! # Services

The questions that building and submitting an operation asks: of the chain's node, of the bundler,
of the contracts, of the two signers, and of the host it runs on. Each question that can fail is
answered with an outcome, and asking it through its function here passes the failure on.
-/

namespace AccountRelay

/-- What a run tells its operator without failing. -/
inductive Warning
  /-- The bundler names an operation by another hash than the entry point. -/
  | bundlerHash
  /-- The hash computed here is not the one of the entry point. -/
  | localHash
  /-- A lookup of a receipt failed. -/
  | receiptLookup
deriving DecidableEq

/-- A warning in words. -/
def Warning.message : Warning → String
  | .bundlerHash => "bundler returned a different userOpHash than the entry point"
  | .localHash => "local userOpHash differs from entry point; check the entry point version"
  | .receiptLookup => "bundler receipt poll error"

/-- A question to the services. -/
inductive ServiceRequest
  | codeAt (account : Address)
  | gasPrice
  | chainId
  | balanceOf (account : Address)
  | estimate (operation : Operation) (entryPoint : Address)
  | send (operation : Operation) (entryPoint : Address)
  | receipt (hash : Hash)
  | priorityFee
  | counterfactualAddress (owner : Address) (salt : Salt)
  | createAccountCallData (owner : Address) (salt : Salt)
  | nonce (sender : Address)
  | operationHash (operation : PackedOperation)
  | paymasterHash (paymaster : Address) (operation : PackedOperation) (window : ValidityWindow)
  | fund (account : Address) (amount : Uint256)
  | tokenBalance (token holder : Address)
  | ownerSign (hash : Hash)
  | paymasterSign (hash : Hash)
  /-- The time in seconds since the epoch, which may lie before it. -/
  | now
  /-- The time on a clock that never goes back. -/
  | uptime
  | pause (span : Duration)
  | warn (warning : Warning)
  /-- Waits for the lock of a sender. -/
  | acquire (sender : Address)
  /-- Gives back the lock of a sender. -/
  | release (sender : Address)

/-- The type of the answer to a question. -/
def ServiceRequest.Answer : ServiceRequest → Type
  | .codeAt _ => Except Failure Bytes
  | .gasPrice => Except Failure Uint256
  | .chainId => Except Failure UInt64
  | .balanceOf _ => Except Failure Uint256
  | .estimate _ _ => Except Failure GasLimits
  | .send _ _ => Except Failure Hash
  | .receipt _ => Except Failure (Option Receipt)
  | .priorityFee => Except Failure Uint256
  | .counterfactualAddress _ _ => Except Failure Address
  | .createAccountCallData _ _ => Except Failure Bytes
  | .nonce _ => Except Failure Uint256
  | .operationHash _ => Except Failure Hash
  | .paymasterHash _ _ _ => Except Failure Hash
  | .fund _ _ => Except Failure Unit
  | .tokenBalance _ _ => Except Failure Uint256
  | .ownerSign _ => Except Failure Bytes
  | .paymasterSign _ => Except Failure Bytes
  | .now => Int
  | .uptime => Duration
  | .pause _ => Unit
  | .warn _ => Unit
  | .acquire _ => Unit
  | .release _ => Unit

/-- Whether a question goes to another party than the host. -/
def ServiceRequest.isRemote : ServiceRequest → Bool
  | .now | .uptime | .pause _ | .warn _ | .acquire _ | .release _ => false
  | _ => true

/-- The questions to the services. -/
abbrev Services : Interface := ⟨ServiceRequest, ServiceRequest.Answer⟩

/-- A computation that asks the services. -/
abbrev Consultation := Dialogue Services Failure

namespace Services

/-- Asks one question and goes on with the answer. -/
def asking {α : Type} (request : ServiceRequest) (next : request.Answer → Consultation α) :
    Consultation α :=
  .ask request next

/-- The code of an account; empty when it has none. -/
def codeAt (account : Address) : Consultation Bytes :=
  asking (.codeAt account) .ofExcept

/-- The price of gas. -/
def gasPrice : Consultation Uint256 :=
  asking .gasPrice .ofExcept

/-- The chain that the node follows. -/
def chainId : Consultation UInt64 :=
  asking .chainId .ofExcept

/-- What an account has of the chain's own currency. -/
def balanceOf (account : Address) : Consultation Uint256 :=
  asking (.balanceOf account) .ofExcept

/-- The bundler's estimate of the gas that an operation takes. -/
def estimate (operation : Operation) (entryPoint : Address) : Consultation GasLimits :=
  asking (.estimate operation entryPoint) .ofExcept

/-- Hands an operation to the bundler, which names it by a hash. -/
def send (operation : Operation) (entryPoint : Address) : Consultation Hash :=
  asking (.send operation entryPoint) .ofExcept

/-- The receipt of an operation, if the bundler has one. -/
def receipt (hash : Hash) : Consultation (Option Receipt) :=
  asking (.receipt hash) .ofExcept

/-- The tip that the bundler asks for. -/
def priorityFee : Consultation Uint256 :=
  asking .priorityFee .ofExcept

/-- The address of the wallet derived from an owner and a salt. -/
def counterfactualAddress (owner : Address) (salt : Salt) : Consultation Address :=
  asking (.counterfactualAddress owner salt) .ofExcept

/-- The call data that deploys the wallet derived from an owner and a salt. -/
def createAccountCallData (owner : Address) (salt : Salt) : Consultation Bytes :=
  asking (.createAccountCallData owner salt) .ofExcept

/-- The nonce of the next operation of a sender. -/
def nonce (sender : Address) : Consultation Uint256 :=
  asking (.nonce sender) .ofExcept

/-- The hash by which the entry point names an operation. -/
def operationHash (operation : PackedOperation) : Consultation Hash :=
  asking (.operationHash operation) .ofExcept

/-- The hash that a paymaster wants signed for an operation and a window. -/
def paymasterHash (paymaster : Address) (operation : PackedOperation) (window : ValidityWindow) :
    Consultation Hash :=
  asking (.paymasterHash paymaster operation window) .ofExcept

/-- Gives an account its first balance. -/
def fund (account : Address) (amount : Uint256) : Consultation Unit :=
  asking (.fund account amount) .ofExcept

/-- What a holder has of a token. -/
def tokenBalance (token holder : Address) : Consultation Uint256 :=
  asking (.tokenBalance token holder) .ofExcept

/-- The signature of the wallets' owner. -/
def ownerSign (hash : Hash) : Consultation Bytes :=
  asking (.ownerSign hash) .ofExcept

/-- The signature of the paymaster's signer. -/
def paymasterSign (hash : Hash) : Consultation Bytes :=
  asking (.paymasterSign hash) .ofExcept

/-- The time in seconds since the epoch; a clock that is set to a time before it is an error. -/
def now : Consultation UInt64 :=
  asking .now fun (time : Int) =>
    if time < 0 then .fail .clockBeforeEpoch else .done (UInt64.ofNat time.toNat)

/-- The time on a clock that never goes back. -/
def uptime : Consultation Duration :=
  asking .uptime .done

/-- Lets a span of time go by. -/
def pause (span : Duration) : Consultation Unit :=
  asking (.pause span) .done

/-- Tells the operator. -/
def warn (warning : Warning) : Consultation Unit :=
  asking (.warn warning) .done

/-- Does something while holding the lock of a sender, which is given back whatever comes of it. -/
def holding {α : Type} (sender : Address) (action : Consultation α) : Consultation α := do
  asking (.acquire sender) fun _ => .done ()
  let outcome ← action.attempt
  asking (.release sender) fun _ => .done ()
  .ofExcept outcome

/-- Does something in an attempt that names its failures. -/
def within {α : Type} (context : Context) (action : Consultation α) : Consultation α :=
  action.mapError (.within context)

end Services

end AccountRelay
