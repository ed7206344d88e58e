import AccountRelay.LocalMachine
import AccountRelay.Proofs.Registry.Creating
import AccountRelay.Proofs.Registry.Reopening

/-! # What follows the record of a wallet

Work for a machine that reads leaves its files alone (`LocalMachine.tree_run_of_asks`), and telling of a
new wallet is such work, whether its receipt is waited for or not. So with the lock given back the
registry opens as it opened when the creation of the wallet had ended
(`Program.run_load_of_createWallet`), and it opens with the new record if there was one
(`Program.run_load_of_createRecorded`).
-/

namespace AccountRelay

/-! ## Opening a registry -/

namespace Registry

/-- A reply is read alike in all trees. -/
theorem exists_run_ofReply (path : String) (reply : Except FileFault Bytes) :
    ∃ outcome, ∀ tree : FileTree, tree.run (ofReply path reply) = (outcome, tree) := by
  cases reply with
  | error fault =>
      obtain ⟨failure, failed⟩ := ofReply_error path fault
      rw [failed]
      exact ⟨_, fun _ => rfl⟩
  | ok content =>
      rcases ofReply_ok path content with ⟨records, -, opened⟩ | ⟨-, failure, failed⟩
      · rw [opened]
        exact ⟨_, fun _ => rfl⟩
      · rw [failed]
        exact ⟨_, fun _ => rfl⟩

/-- Loading a registry changes no file. -/
theorem tree_eq_of_run_load {tree after : FileTree} {path : String} {outcome : Except Failure Registry}
    (loads : tree.run (load path) = (outcome, after)) : after = tree := by
  cases there : tree.hasEntry path with
  | false =>
      rw [run_load_of_missing there] at loads
      exact (congrArg Prod.snd loads).symm
  | true =>
      obtain ⟨found, runs⟩ := exists_run_ofReply path (tree.read path)
      rw [run_load_of_there there, runs] at loads
      exact (congrArg Prod.snd loads).symm

/-- A loaded registry keeps the path it was opened at. -/
theorem path_eq_of_run_load {tree after : FileTree} {path : String} {opened : Registry}
    (loads : tree.run (load path) = (.ok opened, after)) : opened.path = path := by
  obtain ⟨exchanges, ends, -⟩ := tree.exists_follows_run (load path)
  rw [loads] at ends
  exact path_eq_of_load ends

/-- Which locks are held makes no difference to what is loaded. -/
theorem run_load_relocked (tree : FileTree) (locked : List Nat) (path : String) :
    (FileTree.run { tree with locked } (load path)).1 = (tree.run (load path)).1 := by
  have same : FileTree.hasEntry { tree with locked } path = tree.hasEntry path := by
    rw [FileTree.hasEntry, FileTree.hasEntry, tree.find_relocked]
  cases there : tree.hasEntry path with
  | false => rw [run_load_of_missing there, run_load_of_missing (same.trans there)]
  | true =>
      obtain ⟨outcome, runs⟩ := exists_run_ofReply path (tree.read path)
      rw [run_load_of_there there, run_load_of_there (same.trans there), tree.read_relocked, runs,
        runs]

end Registry

/-! ## Files of a machine -/

namespace LocalMachine

/-- Work on the files changes of a machine only its tree. -/
theorem run_ofFiles {α : Type} (machine : LocalMachine) (work : FileWork α) :
    machine.run (Machine.ofFiles work) =
      ((machine.tree.run work).1, { machine with tree := (machine.tree.run work).2 }) := by
  induction work generalizing machine with
  | done value => rfl
  | fail error => rfl
  | ask request follow ih => exact ih _ _

/-- What file work comes to on a machine it comes to in the machine's tree. -/
theorem tree_run_of_ofFiles {α : Type} {machine after : LocalMachine} {work : FileWork α}
    {outcome : Except Failure α} (runs : machine.run (Machine.ofFiles work) = (outcome, after)) :
    machine.tree.run work = (outcome, after.tree) := by
  rw [run_ofFiles, Prod.mk.injEq] at runs
  obtain ⟨rfl, rfl⟩ := runs
  rfl

/-- Looking something up on the network touches no file. -/
theorem tree_lookUp (machine : LocalMachine) (query : NodeQuery) :
    (machine.lookUp query).2.tree = machine.tree := by
  unfold lookUp
  split
  · unfold nextReply
    split
    · rfl
    · rfl
    · rfl
    · rfl
  · rfl

/-- A question for a node touches no file. -/
theorem tree_answerNode (request : NodeRequest) (machine : LocalMachine) :
    (answerNode request machine).2.tree = machine.tree := by
  cases request with
  | query query => exact machine.tree_lookUp query
  | send transaction =>
      change (machine.send transaction).2.tree = machine.tree
      unfold send
      split
      · split
        · exact machine.tree_lookUp .gasPrice
        · rfl
      · rfl
  | settle transaction =>
      simp only [answerNode]
      split
      · rfl
      · rfl

/-- A request that is not for the files touches none. -/
theorem tree_answer {request : MachineRequest} (elsewhere : request.IsElsewhere)
    (machine : LocalMachine) : (answer request machine).2.tree = machine.tree := by
  cases request with
  | file question => exact absurd rfl (elsewhere question)
  | environment | http => rfl
  | node endpoint request => exact tree_answerNode request machine
  | host request =>
      cases request with
      | _ => rfl

/-- Work that goes past the files leaves them alone. -/
theorem tree_run_of_asks {ε α : Type} {work : Dialogue Machine ε α}
    (asks : work.Asks MachineRequest.IsElsewhere) (machine : LocalMachine) :
    (machine.run work).2.tree = machine.tree := by
  induction work generalizing machine with
  | done value => rfl
  | fail error => rfl
  | ask request next ih =>
      rw [← tree_answer asks.1 machine]
      exact ih _ (asks.2 _) _

end LocalMachine

/-! ## The command -/

namespace Program

variable {settings : Settings} {options : CommandLine.OperationOptions} {machine after : LocalMachine}

/-- Announcing a creation touches no file. -/
theorem tree_announce (options : CommandLine.OperationOptions) (session : Session) (creation : Creation)
    (machine : LocalMachine) : (machine.run (announce options session creation)).2.tree = machine.tree :=
  LocalMachine.tree_run_of_asks (asks_announce options session creation) machine

/-- What creating a wallet does to the files is done before anything is announced. -/
theorem tree_createLocked (settings : Settings) (options : CommandLine.OperationOptions)
    (machine : LocalMachine) : (machine.run (createLocked settings options)).2.tree =
      (machine.run (createRecorded settings options)).2.tree := by
  rw [createLocked_eq, LocalMachine.run, Dialogue.run_bind]
  cases recorded : machine.run (createRecorded settings options) with
  | mk outcome later =>
      rw [LocalMachine.run] at recorded
      rw [recorded]
      cases outcome with
      | ok created => exact tree_announce options created.1 created.2 later
      | error failure => rfl

/-- With the lock in hand a wallet is created, and then the lock is given back. -/
theorem tree_createWallet {token : LockToken} {locked : LocalMachine}
    (locks : machine.run (Machine.ofFiles (Registry.lock options.registry)) = (.ok token, locked)) :
    ∃ held, (machine.run (createWallet settings options)).2.tree =
      { (locked.run (createRecorded settings options)).2.tree with locked := held } := by
  rw [← tree_createLocked, createWallet]
  rw [LocalMachine.run] at locks ⊢
  rw [Dialogue.run_bind, locks]
  dsimp only
  rw [Dialogue.run_bind, Dialogue.run_attempt]
  refine ⟨(locked.run (createLocked settings options)).2.tree.locked.filter (· ≠ token.file), ?_⟩
  dsimp only
  rw [LocalMachine.run]
  cases (Dialogue.run LocalMachine.answer (createLocked settings options) locked).1 with
  | ok value => rfl
  | error failure => rfl

/-- The registry opens at the end of the command as it opened when the creation had ended. -/
theorem run_load_of_createWallet {token : LockToken} {locked : LocalMachine}
    (locks : machine.run (Machine.ofFiles (Registry.lock options.registry)) = (.ok token, locked)) :
    ((machine.run (createWallet settings options)).2.tree.run (Registry.load options.registry)).1 =
      ((locked.run (createRecorded settings options)).2.tree.run (Registry.load options.registry)).1 := by
  obtain ⟨held, same⟩ := tree_createWallet locks
  rw [same, Registry.run_load_relocked]

/-- A registry in which a wallet was created opens with the record as its last. -/
theorem run_load_of_record {relay : Relay} {pipeline : Pipeline} {registry : Registry}
    {paymaster : Option Address} {creation : Creation} {record : WalletRecord}
    (ends : machine.run (relay.record (pipeline.createWallet registry paymaster)) =
      (.ok creation, after))
    (success : creation.outcome = .ok record) :
    creation.registry = registry.withRecord record ∧
      after.tree.run (Registry.load registry.path) = (.ok creation.registry, after.tree) := by
  rw [record_createWallet] at ends
  obtain ⟨attempted, deployed, -, ends⟩ := Dialogue.run_bind_ok ends
  cases attempted with
  | error failure =>
      cases ends
      cases success
  | ok found =>
      obtain ⟨change, recorded, creates, ends⟩ := Dialogue.run_bind_ok ends
      cases ends
      have files := LocalMachine.tree_run_of_ofFiles creates
      obtain ⟨grown, outcome⟩ := change
      cases outcome with
      | error failure => cases success
      | ok =>
          cases success
          exact Registry.run_load_of_create files

/-- The command opens the registry and adds to it. -/
theorem run_load_of_createRecorded {session : Session} {creation : Creation} {record : WalletRecord}
    (ends : machine.run (createRecorded settings options) = (.ok (session, creation), after))
    (success : creation.outcome = .ok record) :
    ∃ opened, machine.tree.run (Registry.load options.registry) = (.ok opened, machine.tree) ∧
      creation.registry = opened.withRecord record ∧
      after.tree.run (Registry.load options.registry) = (.ok creation.registry, after.tree) := by
  obtain ⟨opened, loaded, loads, ends⟩ := Dialogue.run_bind_ok ends
  obtain ⟨session, connected, -, ends⟩ := Dialogue.run_bind_ok ends
  obtain ⟨creation, recorded, records, ends⟩ := Dialogue.run_bind_ok ends
  cases ends
  have opens := LocalMachine.tree_run_of_ofFiles loads
  rw [Registry.tree_eq_of_run_load opens] at opens
  obtain ⟨grown, reopens⟩ := run_load_of_record records success
  rw [Registry.path_eq_of_run_load opens] at reopens
  exact ⟨opened, opens, grown, reopens⟩

/-- What the command leaves of the registry when it had the lock. -/
structure KeepsRegistry (settings : Settings) (options : CommandLine.OperationOptions)
    (machine locked : LocalMachine) : Prop where
  /-- At the end the registry opens as it opened when the creation had ended. -/
  unchanged : ((machine.run (createWallet settings options)).2.tree.run
      (Registry.load options.registry)).1 =
    ((locked.run (createRecorded settings options)).2.tree.run (Registry.load options.registry)).1
  /-- If a wallet was created that is what the registry held before, and its record. -/
  recorded : ∀ session creation record,
    (locked.run (createRecorded settings options)).1 = .ok (session, creation) →
      creation.outcome = .ok record →
        ∃ opened, locked.tree.run (Registry.load options.registry) = (.ok opened, locked.tree) ∧
          creation.registry = opened.withRecord record ∧
          ((machine.run (createWallet settings options)).2.tree.run
            (Registry.load options.registry)).1 = .ok creation.registry

/-- Taking the lock keeps the registry's records as they are. -/
theorem keepsRegistry_of_lock {token : LockToken} {locked : LocalMachine}
    (locks : machine.run (Machine.ofFiles (Registry.lock options.registry)) = (.ok token, locked)) :
    KeepsRegistry settings options machine locked := by
  have unchanged : ((machine.run (createWallet settings options)).2.tree.run _).1 = _ :=
    run_load_of_createWallet locks
  refine ⟨unchanged, ?_⟩
  intro session creation record ends success
  obtain ⟨opened, opens, grown, reopens⟩ :=
    run_load_of_createRecorded (Prod.ext ends rfl) success
  exact ⟨opened, opens, grown, unchanged.trans (congrArg Prod.fst reopens)⟩

end Program

end AccountRelay
