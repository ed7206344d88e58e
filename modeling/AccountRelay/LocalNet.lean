import AccountRelay.Operation.Hash
import AccountRelay.Services
import AccountRelay.Signing

/-! # A net in memory

A chain, a bundler and contracts that live in one value. `LocalNet.answer` answers the questions of
`Services`: wallets are derived by a digest of owner and salt, the entry point and the paymaster
compute their hashes here, and the bundler takes every operation that packs. The net keeps what it
was asked, what it was sent and what it funded, and it can be set to fail in various ways.
-/

namespace AccountRelay

/-- Questions that are going to fail: which ones, how many more times if not always, and with which
text. -/
structure Outage where
  strikes : ServiceRequest → Bool
  remaining : Option Nat
  message : String

/-- The state of the net. -/
structure LocalNet where
  ownerKey : SecretKey
  paymasterKey : SecretKey
  gasPrice : Uint256 := 2000000000
  chainId : UInt64 := 31337
  /-- Accounts with code. -/
  code : List Address := []
  balances : List (Address × Uint256) := []
  /-- Whether the node fails to look up code. -/
  failCode : Bool := false
  estimate : GasLimits := { preVerification := 200000, call := 100000, verification := 100000 }
  priorityFee : Uint256 := 1500000000
  /-- Whether the bundler turns down every estimate. -/
  failEstimate : Bool := false
  /-- The message with which the bundler turns down every operation, if it does. -/
  rejectSend : Option String := none
  receipts : List (Hash × Receipt) := []
  /-- How many lookups of receipts find nothing before any finds one. -/
  pendingPolls : Nat := 0
  nonces : List (Address × Uint256) := []
  tokenBalances : List ((Address × Address) × Uint256) := []
  outages : List Outage := []
  /-- The time in seconds since the epoch. -/
  time : Int := 1700000000
  /-- The time on a clock that never goes back. -/
  uptime : Duration := ⟨0⟩
  /-- The questions asked, latest first. -/
  asked : List ServiceRequest := []
  /-- The warnings given, latest first. -/
  warnings : List Warning := []
  /-- The operations taken by the bundler, latest first. -/
  sent : List Operation := []
  /-- The accounts funded and the amounts, latest first. -/
  funded : List (Address × Uint256) := []

namespace LocalNet

/-- The chain that hashes are computed for. -/
def localChain : UInt64 := 31337

/-- The address of the entry point. -/
def entryPoint : Address := Octets.filled 20 0xee

/-- How long a lookup of a receipt takes. -/
def lookupTime : Duration := ⟨100000⟩

/-- The address of the wallet derived from an owner and a salt. -/
def walletAddress (owner : Address) (salt : Salt) : Address :=
  let digest := keccak256 (owner.toList ++ salt.toList)
  ⟨digest.toList.drop 12, by simp [digest.length_eq]⟩

/-- The call data that deploys the wallet derived from an owner and a salt. -/
def walletCallData (owner : Address) (salt : Salt) : Bytes :=
  Abi.callData "createAccount(address,bytes32,address)"
    [.ofAddress owner, .word salt, .ofAddress entryPoint]

/-- The hash that the paymaster wants signed: over the operation without the paymaster's own data,
and over the window. -/
def sponsoredHash (paymaster : Address) (operation : PackedOperation) (window : ValidityWindow) :
    Hash :=
  let bare := { operation with
    paymasterAndData := operation.paymasterAndData.take paymasterDataOffset }
  keccak256 (Abi.encode [
    .word (bare.hash paymaster localChain),
    .ofUInt64 window.validUntil,
    .ofUInt64 window.validAfter])

/-- The rejection of an estimate. -/
def estimateRejection : Rejection where
  method := "eth_estimateUserOperationGas"
  code := -32500
  message := "AA21 didn't pay prefund"
  data := none

/-- The rejection of an operation. -/
def sendRejection (message : String) : Rejection where
  method := "eth_sendUserOperation"
  code := -32507
  message
  data := none

/-- The value under a key, or a default. -/
def found {κ ν : Type} [BEq κ] (entries : List (κ × ν)) (key : κ) (default : ν) : ν :=
  (entries.lookup key).getD default

/-- The bundler takes an operation, or turns it down. -/
def take (net : LocalNet) (operation : Operation) (entryPoint : Address) :
    Except Failure Hash × LocalNet :=
  match net.rejectSend with
  | some message => (.error (.rejected (sendRejection message)), net)
  | none =>
    ((operation.pack.map fun packed => packed.hash entryPoint localChain).mapError .tooWide,
      { net with sent := operation :: net.sent })

/-- The bundler looks up a receipt. -/
def lookUp (net : LocalNet) (hash : Hash) : Except Failure (Option Receipt) × LocalNet :=
  if 0 < net.pendingPolls then (.ok none, { net with pendingPolls := net.pendingPolls - 1 })
  else (.ok (net.receipts.lookup hash), net)

/-- The answer of the net when nothing is out of order. -/
def respond (net : LocalNet) : (request : ServiceRequest) → request.Answer × LocalNet
  | .codeAt account =>
    if net.failCode then
      (.error (.reported "eth_getCode failed: connection refused"), net)
    else (.ok (if account ∈ net.code then [0x60, 0x80] else []), net)
  | .gasPrice => (.ok net.gasPrice, net)
  | .chainId => (.ok net.chainId, net)
  | .balanceOf account => (.ok (found net.balances account 0), net)
  | .estimate _ _ =>
    (if net.failEstimate then .error (.rejected estimateRejection) else .ok net.estimate, net)
  | .send operation entryPoint => net.take operation entryPoint
  | .receipt hash => net.lookUp hash
  | .priorityFee => (.ok net.priorityFee, net)
  | .counterfactualAddress owner salt => (.ok (walletAddress owner salt), net)
  | .createAccountCallData owner salt => (.ok (walletCallData owner salt), net)
  | .nonce sender => (.ok (found net.nonces sender 0), net)
  | .operationHash operation => (.ok (operation.hash entryPoint localChain), net)
  | .paymasterHash paymaster operation window =>
    (.ok (sponsoredHash paymaster operation window), net)
  | .fund account amount => (.ok (), { net with funded := (account, amount) :: net.funded })
  | .tokenBalance token holder =>
    match net.tokenBalances.lookup (token, holder) with
    | some balance => (.ok balance, net)
    | none => (.error (.reported "erc20.balanceOf failed: execution reverted"), net)
  | .ownerSign hash => (.ok (net.ownerKey.signHash hash), net)
  | .paymasterSign hash => (.ok (net.paymasterKey.signHash hash), net)
  | .now => (net.time, net)
  | .uptime => (net.uptime, net)
  | .pause span =>
    ((), { net with uptime := ⟨net.uptime.nanoseconds + span.nanoseconds⟩ })
  | .warn warning => ((), { net with warnings := warning :: net.warnings })
  | .acquire _ => ((), net)
  | .release _ => ((), net)

/-- The answer with which a question fails; a question that cannot fail has none. -/
def refusal? (failure : Failure) : (request : ServiceRequest) → Option request.Answer
  | .codeAt _ | .gasPrice | .chainId | .balanceOf _ | .estimate _ _ | .send _ _ | .receipt _
  | .priorityFee | .counterfactualAddress _ _ | .createAccountCallData _ _ | .nonce _
  | .operationHash _ | .paymasterHash _ _ _ | .fund _ _ | .tokenBalance _ _ | .ownerSign _
  | .paymasterSign _ => some (.error failure)
  | .now | .uptime | .pause _ | .warn _ | .acquire _ | .release _ => none

/-- The first outage that strikes a question, and the outages after it has. -/
def struck (request : ServiceRequest) : List Outage → Option (String × List Outage)
  | [] => none
  | outage :: rest =>
    if outage.strikes request ∧ outage.remaining ≠ some 0 then
      some (outage.message, { outage with remaining := outage.remaining.map (· - 1) } :: rest)
    else (struck request rest).map fun (message, rest) => (message, outage :: rest)

/-- The net after a question was put to it. -/
def note (net : LocalNet) (request : ServiceRequest) : LocalNet :=
  let net := if request.isRemote then { net with asked := request :: net.asked } else net
  match request with
  | .receipt _ =>
    { net with uptime := ⟨net.uptime.nanoseconds + lookupTime.nanoseconds⟩ }
  | _ => net

/-- The answer of the net. -/
def answer (request : ServiceRequest) (net : LocalNet) : request.Answer × LocalNet :=
  let net := net.note request
  match struck request net.outages with
  | some (message, outages) =>
    match refusal? (.reported message) request with
    | some refusal => (refusal, { net with outages })
    | none => net.respond request
  | none => net.respond request

/-- Holds a consultation with the net. -/
def consult {α : Type} (net : LocalNet) (consultation : Consultation α) :
    Except Failure α × LocalNet :=
  consultation.run answer net

end LocalNet

end AccountRelay
