import AccountRelay.Bundler.Client
import AccountRelay.CommandLine.Command
import AccountRelay.Contracts
import AccountRelay.Machine
import AccountRelay.Registry.Creation

/-! # Services over the network

A relay answers the questions of `Services` through a machine: of the chain and the contracts by
asking the node, of the bundler by asking its endpoint, and of the signers with keys of its own.
A program that sends one operation at a time needs no locks, so a sender's lock is always there.
-/

namespace AccountRelay

/-- The parties of a deployment, and the keys at hand. -/
structure Relay where
  rpcUrl : String
  bundlerUrl : String
  contracts : Contracts
  ownerKey : Option SecretKey := none
  paymasterKey : Option SecretKey := none

namespace Relay

/-- The relay of a deployment. -/
def ofDeployment (deployment : Deployment) (ownerKey paymasterKey : Option SecretKey) : Relay where
  rpcUrl := deployment.rpcUrl
  bundlerUrl := deployment.bundlerUrl
  contracts := deployment.contracts
  ownerKey
  paymasterKey

/-- The node, to which the owner's transactions go. -/
def node (relay : Relay) : NodeEndpoint where
  url := relay.rpcUrl
  signer := relay.ownerKey

/-- The signature of a key, if it is at hand. -/
def signature (key : Option SecretKey) (setting : String) (hash : Hash) : Except Failure Bytes :=
  match key with
  | some key => .ok (key.signHash hash)
  | none => .error (.missingKey setting)

/-- The outcome of asking the node. -/
def fromNode {α : Type} (relay : Relay) (work : NodeWork α) : MachineWork (Except Failure α) :=
  (Machine.ofNode relay.node work).attempt

/-- The outcome of asking the bundler. -/
def fromBundler {α : Type} (work : HttpWork α) : MachineWork (Except Failure α) :=
  (Machine.ofHttp work).attempt

/-- The answer to a question. -/
def answer (relay : Relay) : (request : ServiceRequest) → MachineWork request.Answer
  | .codeAt account => relay.fromNode (Chain.codeAt account)
  | .gasPrice => relay.fromNode Chain.gasPrice
  | .chainId => relay.fromNode Chain.chainId
  | .balanceOf account => relay.fromNode (Chain.balanceOf account)
  | .estimate operation entryPoint =>
    fromBundler (Bundler.estimate relay.bundlerUrl operation entryPoint)
  | .send operation entryPoint => fromBundler (Bundler.send relay.bundlerUrl operation entryPoint)
  | .receipt hash => fromBundler (Bundler.lookUp relay.bundlerUrl hash)
  | .priorityFee => fromBundler (Bundler.tip relay.bundlerUrl)
  | .counterfactualAddress owner salt =>
    relay.fromNode (relay.contracts.counterfactualAddress owner salt)
  | .createAccountCallData owner salt =>
    .done (.ok (relay.contracts.createAccountCallData owner salt))
  | .nonce sender => relay.fromNode (relay.contracts.nonce sender)
  | .operationHash operation => relay.fromNode (relay.contracts.operationHash operation)
  | .paymasterHash paymaster operation window =>
    relay.fromNode (Contracts.paymasterHash paymaster operation window)
  | .fund account amount => relay.fromNode (relay.contracts.fund account amount)
  | .tokenBalance token holder => relay.fromNode (Contracts.tokenBalance token holder)
  | .ownerSign hash => .done (signature relay.ownerKey CommandLine.ownerKeySetting hash)
  | .paymasterSign hash =>
    .done (signature relay.paymasterKey CommandLine.paymasterKeySetting hash)
  | .now => Machine.now
  | .uptime => Machine.uptime
  | .pause span => Machine.pause span
  | .warn warning => Machine.warn warning
  | .acquire _ => .done ()
  | .release _ => .done ()

/-- Holds a consultation through the machine. -/
def consult {α : Type} (relay : Relay) (consultation : Consultation α) : MachineWork α :=
  consultation.interpret relay.answer

/-- Does work that also asks the file system. -/
def record {α : Type} (relay : Relay) (work : RecordedWork α) : MachineWork α :=
  work.interpret (I := Services.sum Files) fun
    | .inl question => relay.answer question
    | .inr question => Machine.request (.file question)

end Relay

end AccountRelay
