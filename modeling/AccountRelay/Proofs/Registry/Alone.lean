import AccountRelay.Proofs.Bundler
import AccountRelay.Proofs.Pipeline.InitCode
import AccountRelay.Proofs.Registry.Processes
import AccountRelay.Proofs.Registry.Saving

/-! # A process that is let alone

As long as no other process takes a step, a process goes through its work, with the files as they are
(`Processes.reaches_alone`). With a deployment beside the program and no registry yet, the work of
creating a wallet can go all the way to a recorded wallet (`Program.exists_course`).
-/

namespace AccountRelay

open CommandLine (OperationOptions)
open Registry (lockPath)

variable {α ε : Type}

/-! ## Exchanges with files -/

namespace Exchange

/-- An exchange with the files as one with the machine. -/
def ofFile (exchange : Exchange Files) : Exchange Machine :=
  ⟨.file exchange.request, exchange.reply⟩

/-- The exchange with the files, if it is one. -/
def file? : Exchange Machine → Option (Exchange Files)
  | ⟨.file request, reply⟩ => some ⟨request, reply⟩
  | _ => none

/-- Of exchanges with the files none is lost. -/
@[simp]
theorem filterMap_file?_ofFile (exchanges : List (Exchange Files)) :
    (exchanges.map ofFile).filterMap file? = exchanges := by
  rw [List.filterMap_map]
  exact List.filterMap_some

/-- Exchanges that go past the files are none with them. -/
theorem filterMap_file?_of_elsewhere {exchanges : List (Exchange Machine)}
    (elsewhere : ∀ exchange ∈ exchanges, exchange.request.IsElsewhere) :
    exchanges.filterMap file? = [] := by
  rw [List.filterMap_eq_nil_iff]
  rintro ⟨request, reply⟩ member
  cases request with
  | file question => exact absurd rfl (elsewhere _ member question)
  | environment | node | http | host => rfl

end Exchange

/-- File work has the same exchanges through a machine. -/
theorem Dialogue.Ends.ofFiles {work : Dialogue Files ε α} {exchanges : List (Exchange Files)}
    {outcome : Except ε α} (ends : work.Ends exchanges outcome) :
    (Machine.ofFiles work).Ends (exchanges.map .ofFile) outcome := by
  induction work generalizing exchanges with
  | done value =>
      obtain ⟨rfl, rfl⟩ := ends
      exact ⟨rfl, rfl⟩
  | fail error =>
      obtain ⟨rfl, rfl⟩ := ends
      exact ⟨rfl, rfl⟩
  | ask request follow ih =>
      obtain ⟨reply, rest, rfl, ends⟩ := ends
      exact ⟨reply, _, rfl, ih reply ends⟩

/-! ## Steps of one process -/

namespace Processes

variable {Id : Type} [DecidableEq Id] {system : Processes Id} {id : Id}

/-- The processes after one of them has had exchanges and has been left with other work. -/
def proceed (system : Processes Id) (id : Id) (exchanges : List (Exchange Machine))
    (work : MachineWork Unit) (tree : FileTree) : Processes Id where
  tree
  rest := Function.update system.rest id (some work)
  heard := Function.update system.heard id (system.heard id ++ exchanges)

/-- Without exchanges and with the same work nothing has changed. -/
theorem proceed_nil {work : MachineWork Unit} (rests : system.rest id = some work) :
    system.proceed id [] work system.tree = system := by
  rw [proceed, ← rests, Function.update_eq_self, List.append_nil, Function.update_eq_self]

/-- Who proceeds after one answer has proceeded with that answer. -/
theorem proceed_hear (exchange : Exchange Machine) (exchanges : List (Exchange Machine))
    (between work : MachineWork Unit) (middle after : FileTree) :
    (system.hear id exchange between middle).proceed id exchanges work after =
      system.proceed id (exchange :: exchanges) work after := by
  rw [proceed, heard_hear_self, List.append_assoc]
  simp only [hear, Function.update_idem]
  rfl

/-- **A process that is let alone gets through.** Its work is done after steps of its own, with the
files as its exchanges leave them. -/
theorem reaches_alone {work : MachineWork Unit} {exchanges : List (Exchange Machine)}
    {outcome : Except Failure Unit} {after : FileTree} (rests : system.rest id = some work)
    (ends : work.Ends exchanges outcome)
    (follows : system.tree.Follows (exchanges.filterMap Exchange.file?) after) :
    Relation.ReflTransGen Step system (system.proceed id exchanges (.ofExcept outcome) after) := by
  induction work generalizing system exchanges with
  | done value =>
      obtain ⟨rfl, rfl⟩ := ends
      obtain rfl : after = system.tree := follows
      rw [Dialogue.ofExcept, proceed_nil rests]
  | fail failure =>
      obtain ⟨rfl, rfl⟩ := ends
      obtain rfl : after = system.tree := follows
      rw [Dialogue.ofExcept, proceed_nil rests]
  | ask request next ih =>
      obtain ⟨reply, rest, rfl, ends⟩ := ends
      have goes_on {middle : FileTree}
          (steps : Step system (system.hear id ⟨request, reply⟩ (next reply) middle))
          (follows : middle.Follows (rest.filterMap Exchange.file?) after) :
          Relation.ReflTransGen Step system
            (system.proceed id (⟨request, reply⟩ :: rest) (.ofExcept outcome) after) := by
        rw [← proceed_hear _ _ (next reply) _ middle]
        exact .head steps (ih reply (rest_hear_self ..) ends follows)
      -- Only what is asked of the files moves the tree.
      cases request with
      | file request =>
          obtain ⟨middle, answers, follows⟩ := follows
          exact goes_on (.file rests answers) follows
      | environment | node | http | host =>
          refine goes_on (.other reply rests ?_) follows
          intro question impossible
          cases impossible

end Processes

/-! ## From the lock to the record -/

namespace Registry

variable {path : String}

/-- A registry beside the program is locked with one question. -/
theorem ends_lock (nowhere : Path.directory? path = none) (token : LockToken) :
    (lock path).Ends [⟨.lock (lockPath path), (.ok token : Except LockFault LockToken)⟩]
      (.ok token) := by
  rw [lock, makeDirectory_eq_done nowhere]
  exact ⟨.ok token, [], rfl, rfl, rfl⟩

end Registry

namespace Program

/-- A bundler that takes an operation answers with a hash. -/
theorem ends_send_of_taken (relay : Relay) (operation : Operation) (entryPoint : Address) :
    ∃ own, (relay.answer (.send operation entryPoint)).Ends own
      (.ok (.ok Bundler.takenHash : Except Failure Hash)) := by
  have granted : Bundler.Grants (.ofMembers [("userOpHash", .string Bundler.takenHash.toText)])
      (.ok Bundler.takenReply) := .of_result (by decide) Bundler.document_takenReply rfl rfl
  have sends : (Bundler.send relay.bundlerUrl operation entryPoint).Ends _ (.ok Bundler.takenHash) :=
    Bundler.ends_send_iff.mpr ⟨_, _, _, _, rfl, granted, .wrapped rfl,
      Hex.isBehind_marked Bundler.takenHash.toList, Hex.spells_encode Bundler.takenHash.toList⟩
  have posts : (Machine.ofHttp (Bundler.send relay.bundlerUrl operation entryPoint)).Ends _
      (.ok Bundler.takenHash) :=
    Dialogue.Ends.of_serves sends ⟨[_], [], rfl, ⟨_, [], rfl, rfl, rfl⟩, rfl⟩
  exact ⟨_, posts.of_attempt⟩

/-- On the local machine the first wallet is deployed. -/
theorem exists_ends_deployWallet_local : ∃ deploying record,
    (localSession.relay.consult (localSession.pipeline.deployWallet 1 none)).Ends deploying
      (.ok record) := by
  obtain ⟨lead, sender, signing, signed, packed, derives, signs, packs, -⟩ := exists_ends_newcomer
  obtain ⟨own, accepts⟩ := ends_send_of_taken localSession.relay signed.operation
    localSession.pipeline.deployment.entryPoint
  obtain ⟨finishing, finishes⟩ := Relay.exists_ends_finish_of_accepted packs accepts
  have sends := Relay.ends_send derives signs finishes
  have tells : (localSession.relay.consult (Services.now)).Ends [⟨.host .now, (0 : Int)⟩] (.ok 0) :=
    ⟨(0 : Int), [], rfl, rfl, rfl⟩
  have ends : (localSession.relay.consult (localSession.pipeline.deployWallet 1 none)).Ends
      (lead ++ ((lead ++ (signing ++ finishing)) ++ ([⟨.host .now, (0 : Int)⟩] ++ []))) (.ok {
        address := sender
        salt := 1
        createdAt := 0
        operationHash := some Bundler.takenHash }) := by
    rw [Pipeline.deployWallet, Relay.consult_bind]
    refine derives.of_bind ?_
    rw [Relay.consult_bind]
    refine sends.of_bind ?_
    rw [Relay.consult_bind]
    exact tells.of_bind ⟨rfl, rfl⟩
  exact ⟨_, _, ends⟩

/-- On the local machine the first wallet is recorded in an empty registry, which is saved with it. -/
theorem exists_ends_record_local : ∃ recording record creation,
    (localSession.relay.record (localSession.pipeline.createWallet ⟨"wallets.json", []⟩ none)).Ends
      recording (.ok creation) ∧ creation.outcome = .ok record ∧
      recording.filterMap Exchange.file? = Registry.replacing ⟨"wallets.json", [record]⟩ := by
  obtain ⟨deploying, record, deploys⟩ := exists_ends_deployWallet_local
  have attempts : (localSession.relay.consult
      (localSession.pipeline.deployWallet 1 none).attempt).Ends deploying (.ok (.ok record)) := by
    obtain ⟨answered, ends, serves⟩ := localSession.relay.serves_of_consult deploys
    exact Dialogue.Ends.of_serves ends.of_attempt serves
  have nowhere : Path.directory? "wallets.json" = none := by decide
  have creates : ((Registry.mk "wallets.json" []).create record).Ends _ _ :=
    Registry.ends_create_of_unknown rfl nowhere
  have silent := Exchange.filterMap_file?_of_elsewhere
    ((localSession.relay.asks_consult _).of_ends deploys)
  refine ⟨deploying ++ ((Registry.replacing ⟨"wallets.json", [record]⟩).map .ofFile ++ []), record,
    ⟨⟨"wallets.json", [record]⟩, .ok record⟩, ?_, rfl, ?_⟩
  · rw [record_createWallet]
    exact attempts.of_bind (creates.ofFiles.of_bind ⟨rfl, rfl⟩)
  · rw [List.append_nil, List.filterMap_append, silent, Exchange.filterMap_file?_ofFile]
    rfl

/-- The exchanges with files of a process that has the lock and records a first wallet. -/
def recording (record : WalletRecord) : List (Exchange Files) :=
  ⟨.hasEntry "wallets.json", false⟩ ::
    ⟨.read "deployment.json",
      (.ok (Bytes.ofText Deployment.Document.textOnLocalNet) : Except FileFault Bytes)⟩ ::
    Registry.replacing ⟨"wallets.json", [record]⟩

/-- A process on the local machine can create its first wallet, and works on the files as a recording
does. -/
theorem exists_ends_createRecorded_local : ∃ creating record creation,
    (createRecorded [] localOptions).Ends creating (.ok (localSession, creation)) ∧
      creation.outcome = .ok record ∧ creating.filterMap Exchange.file? = recording record := by
  have loads := (Registry.ends_load_of_missing "wallets.json").ofFiles
  obtain ⟨asked, opens, elsewhere⟩ := exists_ends_openSession_local
  obtain ⟨saving, record, creation, records, created, files⟩ := exists_ends_record_local
  refine ⟨_, record, creation, loads.of_bind (opens.of_bind (records.of_bind ⟨rfl, rfl⟩)), created, ?_⟩
  have silent := Exchange.filterMap_file?_of_elsewhere elsewhere
  have read : (deploymentRead :: asked).filterMap Exchange.file? = [⟨.read "deployment.json",
      (.ok (Bytes.ofText Deployment.Document.textOnLocalNet) : Except FileFault Bytes)⟩] := by
    rw [← silent]
    rfl
  rw [List.append_nil, List.filterMap_append, List.filterMap_append, Exchange.filterMap_file?_ofFile,
    read, files]
  rfl

/-- What a process does once it has the lock. -/
def afterLock (settings : Settings) (options : OperationOptions) (token : LockToken) :
    MachineWork Unit := do
  let outcome ← (createLocked settings options).attempt
  Machine.request (.file (.unlock token))
  .ofExcept outcome

/-- A registry beside the program is locked first of all. -/
theorem exists_createWallet_eq_ask (settings : Settings) (options : OperationOptions)
    (nowhere : Path.directory? options.registry = none) : ∃ next,
    createWallet settings options = .ask (.file (.lock (lockPath options.registry))) next ∧
      ∀ token, next (.ok token) = afterLock settings options token := by
  rw [createWallet, Registry.lock, Registry.makeDirectory_eq_done nowhere]
  exact ⟨_, rfl, fun _ => rfl⟩

/-- **A first wallet can be recorded.** With the lock in hand, a process may go on to record a wallet and
to give the lock back, and it has no more exchanges with files than it takes. -/
theorem exists_course (token : LockToken) : ∃ creating rest outcome session creation record,
    (createRecorded [] localOptions).Ends creating (.ok (session, creation)) ∧
      creation.outcome = .ok record ∧
      (afterLock [] localOptions token).Ends (creating ++ rest) outcome ∧
      (creating ++ rest).filterMap Exchange.file? = recording record ++ [⟨.unlock token, ()⟩] := by
  obtain ⟨creating, record, creation, creates, created, files⟩ := exists_ends_createRecorded_local
  obtain ⟨telling, outcome, announces⟩ :=
    LocalMachine.exists_ends (announce localOptions localSession creation)
  have silent := Exchange.filterMap_file?_of_elsewhere ((asks_announce _ _ _).of_ends announces)
  have locked : (createLocked [] localOptions).Ends (creating ++ telling) outcome := by
    rw [createLocked_eq]
    exact creates.of_bind announces
  have unlocks : (Machine.request (.file (.unlock token)) : MachineWork Unit).Ends
      [⟨.file (.unlock token), ()⟩] (.ok ()) := ⟨(), [], rfl, rfl, rfl⟩
  have ends : (afterLock [] localOptions token).Ends
      (creating ++ telling ++ ([⟨.file (.unlock token), ()⟩] ++ [])) outcome :=
    locked.of_attempt.of_bind (unlocks.of_bind (.of_ofExcept outcome))
  rw [List.append_nil, List.append_assoc] at ends
  refine ⟨creating, _, outcome, localSession, creation, record, creates, created, ends, ?_⟩
  rw [List.filterMap_append, List.filterMap_append, files, silent]
  rfl

end Program

end AccountRelay
