import AccountRelay.Abi
import AccountRelay.Dialogue
import AccountRelay.Failure

/-! # Requests to the chain's node

What the node is asked: to look something up in the latest block, to pass on a transaction of the
owner, and to wait for one. A lookup is answered with a JSON value, which is read elsewhere.
-/

namespace AccountRelay

/-- A call of a contract. -/
structure ContractCall where
  target : Address
  data : Bytes
deriving DecidableEq

/-- A lookup. -/
inductive NodeQuery
  /-- What a contract answers to a call that leaves no trace. -/
  | call (call : ContractCall)
  | codeAt (account : Address)
  | balanceOf (account : Address)
  | gasPrice
  | chainId
deriving DecidableEq

/-- The method of a lookup. -/
def NodeQuery.method : NodeQuery → String
  | .call _ => "eth_call"
  | .codeAt _ => "eth_getCode"
  | .balanceOf _ => "eth_getBalance"
  | .gasPrice => "eth_gasPrice"
  | .chainId => "eth_chainId"

/-- The parameters of a lookup. -/
def NodeQuery.params : NodeQuery → List Json.Value
  | .call request =>
    [.ofMembers [("to", .string request.target.toText),
      ("data", .string (Hex.marked request.data))]]
  | .codeAt account | .balanceOf account => [.string account.toText]
  | .gasPrice | .chainId => []

/-- A transaction of the owner. -/
structure Transaction where
  target : Address
  data : Option Bytes := none
  /-- What is sent along of the chain's own currency. -/
  value : Option Uint256 := none
deriving DecidableEq

/-- What is known of a transaction once it is part of a block. -/
structure TransactionReceipt where
  transaction : Hash
  /-- One when the transaction did what it was to do. -/
  status : Option Nat
deriving DecidableEq

/-- A request to the node. -/
inductive NodeRequest
  | query (query : NodeQuery)
  /-- Passes on a transaction, which is named by a hash. -/
  | send (transaction : Transaction)
  /-- Waits until a transaction is part of a block or nobody knows of it any longer. -/
  | settle (transaction : Hash)
deriving DecidableEq

/-- The type of the answer to a request. -/
def NodeRequest.Answer : NodeRequest → Type
  | .query _ => Except String Json.Value
  | .send _ => Except String Hash
  | .settle _ => Except String (Option TransactionReceipt)

/-- The requests to the node. -/
abbrev ChainNode : Interface := ⟨NodeRequest, NodeRequest.Answer⟩

/-- A computation that asks the node. -/
abbrev NodeWork := Dialogue ChainNode Failure

namespace ChainNode

/-- Makes one request and goes on with the answer. -/
def asking {α : Type} (request : NodeRequest) (next : request.Answer → NodeWork α) : NodeWork α :=
  .ask request next

/-- A failure of the node in an attempt. -/
def failure (layer : Layer) (context : Context) (text : String) : Failure :=
  .within context (.external layer text)

/-- Looks something up and reads the reply. -/
def lookUp {α : Type} (layer : Layer) (context : Context) (read : Json.Value → Option α)
    (query : NodeQuery) : NodeWork α :=
  asking (.query query) fun (answer : Except String Json.Value) =>
    match answer.map read with
    | .ok (some value) => .done value
    | .ok none => .fail (failure layer context "reply not accepted")
    | .error text => .fail (failure layer context text)

end ChainNode

end AccountRelay
