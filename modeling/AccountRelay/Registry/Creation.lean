import AccountRelay.LocalNet
import AccountRelay.Pipeline
import AccountRelay.Registry.Store
import AccountRelay.Storage.FileTree

/-! # Creating wallets

A wallet is created with the salt that comes next in a registry. It is recorded as soon as the
bundler has taken the operation that deploys it, before anybody waits for a receipt.
-/

namespace AccountRelay

/-- A computation that asks the services and the file system. -/
abbrev RecordedWork := Dialogue (Services.sum Files) Failure

/-- A registry after an attempt to create a wallet, and the new record if the attempt succeeded. -/
structure Creation where
  registry : Registry
  outcome : Except Failure WalletRecord

namespace Pipeline

/-- Has the wallet of a counter deployed; the answer is its record. -/
def deployWallet (pipeline : Pipeline) (counter : UInt64) (paymaster : Option Address) :
    Consultation WalletRecord := do
  let salt := Salt.ofCounter counter
  let address ← pipeline.resolver.counterfactualAddress salt
  let hash ← pipeline.send { wallet := .derived salt, paymaster }
  let createdAt ← Services.now
  return { address, salt := counter, createdAt, operationHash := some hash }

/-- Creates the next wallet of a registry. -/
def createWallet (pipeline : Pipeline) (registry : Registry) (paymaster : Option Address) :
    RecordedWork Creation := do
  match ← (pipeline.deployWallet registry.nextSalt paymaster).attempt.inl with
  | .error failure => return { registry, outcome := .error failure }
  | .ok record =>
    let change ← (registry.create record).inr
    return { registry := change.registry, outcome := change.outcome.map fun _ => record }

/-- Creates the next wallet of a registry with a net and files in memory. -/
def createWalletLocally (pipeline : Pipeline) (registry : Registry) (paymaster : Option Address)
    (net : LocalNet) (files : FileTree) : Except Failure Creation × LocalNet × FileTree :=
  (pipeline.createWallet registry paymaster).run
    (Dialogue.answerEither LocalNet.answer FileTree.answer) (net, files)

end Pipeline

end AccountRelay
