import AccountRelay.Proofs.Pipeline.Deploying
import AccountRelay.Proofs.Registry.Announcing
import AccountRelay.Proofs.Registry.Salts

/-! # A wallet is created and recorded

On a net and with files in memory an attempt to create a wallet is the deployment of the wallet, and
behind that the creation of its record (`Pipeline.createWalletLocally_eq`). So a wallet whose creation
succeeds is the one of the salt that came next, the bundler has taken one operation of it, and the
record of that is the registry's last, in memory and in the files, before anybody waits for a receipt
(`Pipeline.recorded_before_waiting`).
-/

namespace AccountRelay

variable {pipeline : Pipeline} {registry : Registry} {paymaster : Option Address} {net net' : LocalNet}
  {files files' : FileTree} {creation : Creation} {record : WalletRecord}

/-- Options with a registry beside the program. -/
def Processes.besideOptions : CommandLine.OperationOptions where
  deployment := "deployment.json"
  rpc := none
  bundler := none
  registry := "wallets.json"
  ownerKey := none
  paymasterKey := none
  noPaymaster := true
  wait := false
  maxWaitSeconds := 0

/-- A tree with nothing but the file of a lock that is held. -/
def Processes.lockedTree : FileTree where
  entries := [(["wallets.lock"], .file 0)]
  contents := [(0, [])]
  made := 1
  locked := [0]

namespace Pipeline

/-- A local creation deploys a wallet and, where that succeeds, adds its record to the registry. -/
theorem createWalletLocally_eq (pipeline : Pipeline) (registry : Registry) (paymaster : Option Address)
    (net : LocalNet) (files : FileTree) : pipeline.createWalletLocally registry paymaster net files =
      match net.consult (pipeline.deployWallet registry.nextSalt paymaster) with
      | (.error failure, after) => (.ok { registry, outcome := .error failure }, after, files)
      | (.ok record, after) =>
        match files.run (registry.create record) with
        | (.ok change, later) =>
          (.ok { registry := change.registry, outcome := change.outcome.map fun _ => record }, after, later)
        | (.error failure, later) => (.error failure, after, later) := by
  rw [createWalletLocally, createWallet, Dialogue.run_bind, Dialogue.run_inl, Dialogue.run_attempt]
  rw [LocalNet.consult]
  dsimp only
  cases Dialogue.run LocalNet.answer (pipeline.deployWallet registry.nextSalt paymaster) net with
  | mk outcome after =>
      cases outcome with
      | error failure => rfl
      | ok record =>
          dsimp only
          rw [Dialogue.run_bind, Dialogue.run_inr, FileTree.run]
          cases Dialogue.run FileTree.answer (registry.create record) files with
          | mk outcome later =>
              cases outcome with
              | error failure => rfl
              | ok change => rfl

/-- What a wallet that was created on a net comes to: the operation that was taken for it, and the
record of it. -/
structure HasCreated (pipeline : Pipeline) (registry : Registry) (net net' : LocalNet)
    (files' : FileTree) (creation : Creation) (record : WalletRecord) : Prop where
  /-- The wallet is the next one, and the bundler has taken one operation. -/
  taken : ∃ operation, pipeline.Deploys net (registry.count + 1) record operation ∧
    net'.sent = operation :: net.sent
  recorded : creation.registry = registry.withRecord record
  reopens : files'.run (Registry.load registry.path) = (.ok creation.registry, files')
  /-- Telling of the wallet on a machine with these files leaves them, whether its receipt is waited
  for or not, and whatever that comes to. -/
  stays : ∀ options session (machine : LocalMachine), machine.tree = files' →
    (machine.run (Program.announce options session creation)).2.tree = files'

/-- A local creation that succeeds has created what it records. -/
theorem hasCreated_of_createWalletLocally
    (ends : pipeline.createWalletLocally registry paymaster net files = (.ok creation, net', files'))
    (success : creation.outcome = .ok record) :
    pipeline.HasCreated registry net net' files' creation record := by
  rw [createWalletLocally_eq] at ends
  split at ends
  · cases ends
    cases success
  · rename_i found deployed deploys
    split at ends
    · rename_i change recorded creates
      cases ends
      obtain ⟨grown, outcome⟩ := change
      cases outcome with
      | error failure => cases success
      | ok =>
          cases success
          obtain ⟨operation, log, outages, deployment, rfl⟩ :=
            pipeline.places_deployWallet registry.nextSalt paymaster net.log net.outages _ _ deploys
          obtain ⟨same, reopens⟩ := Registry.run_load_of_create creates
          refine ⟨⟨operation, deployment, rfl⟩, same, reopens, ?_⟩
          rintro options session machine rfl
          exact Program.tree_announce options session _ machine
    · cases ends

/-- An operation that cannot be sent leaves registry and files as they were. -/
theorem createWalletLocally_of_send {middle : LocalNet} {address : Address} {failure : Failure}
    (derives : net.consult (pipeline.resolver.counterfactualAddress
      (Salt.ofCounter registry.nextSalt)) = (.ok address, middle))
    (fails : middle.consult (pipeline.send
      { wallet := .derived (Salt.ofCounter registry.nextSalt), paymaster }) = (.error failure, net')) :
    pipeline.createWalletLocally registry paymaster net files =
      (.ok { registry, outcome := .error failure }, net', files) := by
  have deploys : net.consult (pipeline.deployWallet registry.nextSalt paymaster) =
      (.error failure, net') := by
    rw [LocalNet.consult] at derives fails ⊢
    rw [deployWallet, Dialogue.run_bind, derives]
    dsimp only
    rw [Dialogue.run_bind, fails]
  rw [createWalletLocally_eq, deploys]

/-- **A wallet that is created is recorded before anybody waits.** Whatever net, registry, files and
choice of who pays: when an attempt to create a wallet succeeds, the bundler has taken one operation
of the wallet of the next salt and has named it by the hash in the record, and the record is the last
of the registry, in memory and in the files, where no telling or waiting removes it. When the operation
cannot be sent, the attempt fails as that did, and registry and files are as they were. And however the
command ends that creates a wallet with the registry's lock, the registry opens with what it had when
the attempt had ended, and with the record if there was one. -/
theorem recorded_before_waiting :
    (∀ (pipeline : Pipeline) (registry : Registry) (paymaster : Option Address) (net net' : LocalNet)
      (files files' : FileTree) (creation : Creation) (record : WalletRecord),
      pipeline.createWalletLocally registry paymaster net files = (.ok creation, net', files') →
        creation.outcome = .ok record →
          pipeline.HasCreated registry net net' files' creation record) ∧
    (∀ (pipeline : Pipeline) (registry : Registry) (paymaster : Option Address)
      (net middle net' : LocalNet) (files : FileTree) (address : Address) (failure : Failure),
      net.consult (pipeline.resolver.counterfactualAddress (Salt.ofCounter registry.nextSalt)) =
          (.ok address, middle) →
        middle.consult (pipeline.send
            { wallet := .derived (Salt.ofCounter registry.nextSalt), paymaster }) =
            (.error failure, net') →
          pipeline.createWalletLocally registry paymaster net files =
            (.ok { registry, outcome := .error failure }, net', files)) ∧
    ∀ (settings : Settings) (options : CommandLine.OperationOptions) (machine locked : LocalMachine)
      (token : LockToken),
      machine.run (Machine.ofFiles (Registry.lock options.registry)) = (.ok token, locked) →
        Program.KeepsRegistry settings options machine locked :=
  ⟨fun _ _ _ _ _ _ _ _ _ => hasCreated_of_createWalletLocally,
    fun _ _ _ _ _ _ _ _ _ => createWalletLocally_of_send,
    fun _ _ _ _ _ => Program.keepsRegistry_of_lock⟩

open CreateRun (localPipeline registryTree)

/-- A net whose bundler turns down all operations. -/
def refusingNet : LocalNet :=
  { LocalNet.obliging with rejectSend := some "AA25 invalid account nonce" }

/-- No send gets through to a bundler that turns every operation down, and the net stays as it is. -/
theorem yields_send_refusing (request : Request) : ∃ failure,
    refusingNet.Yields (localPipeline.send request) (.error failure) refusingNet := by
  have clear : refusingNet.outages = [] := rfl
  rcases localPipeline.sends_send clear request with
    ⟨hash, operation, delivers, -⟩ | ⟨-, fails⟩
  · have accepts : refusingNet.rejectSend = none := delivers.sendable.accepted
    cases accepts
  · exact fails

/-- The first wallet of a registry is recorded, one that the bundler turns down is not, and the command
with the lock keeps a registry that is not there yet. -/
theorem recorded_before_waiting_first :
    (∃ creation record after files operation,
      localPipeline.createWalletLocally ⟨"wallets.json", []⟩ none .obliging {} =
        (.ok creation, after, files) ∧
      creation.outcome = .ok record ∧ after.sent = [operation] ∧ operation.sender = record.address ∧
      files.run (Registry.load "wallets.json") = (.ok ⟨"wallets.json", [record]⟩, files)) ∧
    (∃ failure after, localPipeline.createWalletLocally ⟨"wallets.json", []⟩ none refusingNet {} =
      (.ok ⟨⟨"wallets.json", []⟩, .error failure⟩, after, {})) ∧
    Program.KeepsRegistry [] Processes.besideOptions {} { tree := Processes.lockedTree } := by
  obtain ⟨creates, refuses, keeps⟩ := recorded_before_waiting
  refine ⟨?_, ?_, ?_⟩
  · obtain ⟨record, operation, deployed⟩ := CreateRun.exists_yields_deployWallet 1
    obtain ⟨later, deploys⟩ := deployed.exists_consult
    have ends : localPipeline.createWalletLocally ⟨"wallets.json", []⟩ none .obliging {} =
        (.ok ⟨⟨"wallets.json", [record]⟩, .ok record⟩,
          (LocalNet.obliging.taking operation).logged later, registryTree [record]) := by
      have next : (Registry.mk "wallets.json" []).nextSalt = 1 := rfl
      rw [createWalletLocally_eq, next, deploys]
      dsimp only
      rw [CreateRun.run_create_first]
      rfl
    have created := creates _ _ _ _ _ _ _ _ record ends rfl
    obtain ⟨taken, deployment, sent⟩ := created.taken
    exact ⟨_, record, _, _, taken, ends, rfl, sent, deployment.sender, created.reopens⟩
  · let wallet := LocalNet.walletAddress localPipeline.owner (Salt.ofCounter 1)
    have derives : refusingNet.Yields (localPipeline.resolver.counterfactualAddress
        (Salt.ofCounter 1)) (.ok wallet) refusingNet :=
      .asking rfl (.counterfactualAddress localPipeline.owner _) trivial (.done wallet)
    obtain ⟨asked, derived⟩ := derives.exists_consult
    obtain ⟨failure, fails⟩ := yields_send_refusing
      { wallet := .derived (Salt.ofCounter 1), paymaster := none }
    obtain ⟨later, refused⟩ := fails asked
    exact ⟨failure, _, refuses _ ⟨"wallets.json", []⟩ none _ _ _ {} wallet failure derived refused⟩
  · have locks : ({} : LocalMachine).run (Machine.ofFiles (Registry.lock "wallets.json")) =
        (.ok ⟨0⟩, { tree := Processes.lockedTree }) := rfl
    exact keeps [] Processes.besideOptions {} _ ⟨0⟩ locks

end Pipeline

end AccountRelay
