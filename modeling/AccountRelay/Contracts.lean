import AccountRelay.Deployment.Basic
import AccountRelay.Node.Chain
import AccountRelay.Operation.Hash
import AccountRelay.Sponsorship

/-! # The contracts of a deployment

The calls by which wallets are derived, operations are named and authorized, and balances are found
out, each of them a lookup that leaves no trace, and the one transaction that gives a wallet its
first balance. The call that derives a wallet is the one that deploys it (`Contracts.derivation`).
-/

namespace AccountRelay

/-- The contracts that wallets work with, and how new wallets are funded. -/
structure Contracts where
  entryPoint : Address
  factory : Address
  fundingMode : FundingMode
  /-- The paymaster that mints tokens. -/
  fundingPaymaster : Address
deriving DecidableEq

/-- The contracts of a deployment. -/
def Deployment.contracts (deployment : Deployment) : Contracts where
  entryPoint := deployment.entryPoint
  factory := deployment.accountFactory
  fundingMode := deployment.fundingMode
  fundingPaymaster := deployment.paymaster

/-- The type of a packed operation in the signature of a function. -/
def packedOperationType : String :=
  "(address,uint256,bytes,bytes,bytes32,uint256,bytes32,bytes,bytes)"

/-- The first word of what a contract answers. -/
def Word.ofReply? (reply : Json.Value) : Option Word := do
  Octets.ofBytes? 32 ((← Bytes.ofReply? reply).take 32)

/-- The account in the low bytes of a word. -/
def Word.toAddress (word : Word) : Address :=
  ⟨word.toList.drop 12, by simp [word.length_eq]⟩

namespace Contracts

/-- The result of a call, which is one word. -/
def wordOf (context : Context) (call : ContractCall) : NodeWork Word :=
  ChainNode.lookUp .contract context Word.ofReply? (.call call)

/-- The call that deploys the wallet of an owner and a salt, and that answers with its address
whether there is a wallet already or not. -/
def derivation (contracts : Contracts) (owner : Address) (salt : Salt) : ContractCall where
  target := contracts.factory
  data := Abi.callData "createAccount(address,bytes32,address)"
    [.ofAddress owner, .word salt, .ofAddress contracts.entryPoint]

/-- The address of the wallet of an owner and a salt. -/
def counterfactualAddress (contracts : Contracts) (owner : Address) (salt : Salt) :
    NodeWork Address := do
  let word ← wordOf .deriveAddress (contracts.derivation owner salt)
  return word.toAddress

/-- The call data that deploys the wallet of an owner and a salt. -/
def createAccountCallData (contracts : Contracts) (owner : Address) (salt : Salt) : Bytes :=
  (contracts.derivation owner salt).data

/-- The nonce of the next operation of a sender, in the first of its sequences. -/
def nonce (contracts : Contracts) (sender : Address) : NodeWork Uint256 := do
  let word ← wordOf .readNonce {
    target := contracts.entryPoint
    data := Abi.callData "getNonce(address,uint192)" [.ofAddress sender, .ofNumber 0] }
  return .ofWord word

/-- The hash by which the entry point names an operation. -/
def operationHash (contracts : Contracts) (operation : PackedOperation) : NodeWork Hash :=
  wordOf .readOperationHash {
    target := contracts.entryPoint
    data := Abi.callData s!"getUserOpHash({packedOperationType})" [operation.toArgument] }

/-- The hash that a paymaster wants signed for an operation and a window. -/
def paymasterHash (paymaster : Address) (operation : PackedOperation) (window : ValidityWindow) :
    NodeWork Hash :=
  wordOf .readPaymasterHash {
    target := paymaster
    data := Abi.callData s!"getHash({packedOperationType},uint48,uint48)"
      [operation.toArgument, .ofUInt64 window.validUntil, .ofUInt64 window.validAfter] }

/-- What a holder has of a token. -/
def tokenBalance (token holder : Address) : NodeWork Uint256 := do
  let word ← wordOf .readTokenBalance {
    target := token
    data := Abi.callData "balanceOf(address)" [.ofAddress holder] }
  return .ofWord word

/-- Passes on a transaction and waits for it. -/
def settled (sending : Context) (layer : Layer) (waiting : Context) (transaction : Transaction) :
    NodeWork (Option TransactionReceipt) :=
  ChainNode.asking (.send transaction) fun
    | .error text => .fail (ChainNode.failure layer sending text)
    | .ok hash => ChainNode.asking (.settle hash) fun
      | .error text => .fail (ChainNode.failure .node waiting text)
      | .ok receipt => .done receipt

/-- Has the paymaster mint tokens for an account. The minting has to have happened. -/
def mint (contracts : Contracts) (account : Address) (amount : Uint256) : NodeWork Unit := do
  match ← settled .sendMint .contract .awaitMint {
    target := contracts.fundingPaymaster
    data := some (Abi.callData "mintTokens(address,uint256)"
      [.ofAddress account, .ofNumber amount]) } with
  | none => .fail .mintDropped
  | some receipt =>
    if receipt.status = some 1 then return () else .fail (.mintReverted receipt.transaction)

/-- Sends an account some of the chain's own currency. The transaction has to be part of a block,
with whatever status. -/
def sendNative (account : Address) (amount : Uint256) : NodeWork Unit := do
  match ← settled .sendFunding .node .awaitFunding { target := account, value := some amount } with
  | none => .fail .fundingDropped
  | some _ => return ()

/-- Gives an account its first balance, in the way of the deployment; of an amount of zero nothing
is sent. -/
def fund (contracts : Contracts) (account : Address) (amount : Uint256) : NodeWork Unit :=
  if amount = 0 then .done ()
  else
    match contracts.fundingMode with
    | .paymasterMint => contracts.mint account amount
    | .native => sendNative account amount
    | .none => .done ()

end Contracts

end AccountRelay
