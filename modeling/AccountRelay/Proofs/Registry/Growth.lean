import AccountRelay.Proofs.Registry.Alone
import Mathlib.Data.List.Basic
import Mathlib.Data.List.Nodup

/-! # No wallet is lost

Whatever processes do that create wallets in a registry, and wherever they fail or are killed, at most
one of them is inside the lock, and the registry is a list that only grows: the record at each place
has the salt of that place and the address that some process derived from it, and the record of a
process that was told of success is there (`Processes.no_lost_update`).
-/

namespace AccountRelay.Processes

open CommandLine (OperationOptions)
open Registry (Deploys lockPath tempPath)

variable {Id : Type} [DecidableEq Id] {settings : Id → Settings} {options : Id → OperationOptions}
  {path : String} {tree : FileTree} {system : Processes Id} {records : List WalletRecord}

/-- Wherever the processes get to, the registry holds some records for which the system is sound. -/
theorem exists_sound (same_path : ∀ id, (options id).registry = path)
    (no_lock : Path.extension? path ≠ some "lock".toList) (fresh : tree.IsFresh)
    (missing : tree.content? (Path.destination path) = none)
    (reached : Relation.ReflTransGen Step (start tree settings options) system) :
    ∃ records, system.Sound settings options path records := by
  induction reached with
  | refl => exact ⟨[], sound_start fresh missing⟩
  | tail _ steps ih =>
      obtain ⟨records, sound⟩ := ih
      exact sound.step same_path no_lock steps

/-- What a registry holds that processes have written. -/
structure Tells (settings : Id → Settings) (options : Id → OperationOptions) (path : String)
    (system : Processes Id) (records : List WalletRecord) : Prop where
  /-- There is no file, or it can be read. -/
  stored : Registry.stored? system.tree path = some records
  salt : ∀ place record, records[place]? = some record → record.salt = UInt64.ofNat (place + 1)
  /-- The process that wrote a record had read those before it, and has derived the address. -/
  source : ∀ place record, records[place]? = some record → ∃ id,
    Deploys (settings id) (options id) (system.heard id) (records.take place) record ∧
      Program.HasDerived (settings id) (options id) (system.heard id) (UInt64.ofNat (place + 1))
        record.address
  /-- A list of more records than there are counters does not fit into a memory. -/
  nodup : records.length < UInt64.size → (records.map (·.salt)).Nodup
  created : ∀ id record,
    Program.HasCreated (settings id) (options id) (system.heard id) record → record ∈ records

omit [DecidableEq Id] in
/-- In a sound system every record was deployed by one of the processes, on top of the records before
it. -/
theorem Sound.deploys_of_getElem? (sound : system.Sound settings options path records) {place : Nat}
    {record : WalletRecord} (there : records[place]? = some record) :
    ∃ id, Deploys (settings id) (options id) (system.heard id) (records.take place) record := by
  apply sound.sourced
  obtain ⟨short, rfl⟩ := List.getElem?_eq_some_iff.mp there
  rw [← List.take_succ_eq_append_getElem short]
  exact List.take_prefix _ _

/-- Salts that count the places are all different, as long as the counter does not wrap. -/
theorem nodup_salts (salts : ∀ place record, records[place]? = some record →
      record.salt = UInt64.ofNat (place + 1)) (fits : records.length < UInt64.size) :
    (records.map (·.salt)).Nodup := by
  rw [List.nodup_iff_getElem?_ne_getElem?]
  intro first second earlier inside same
  rw [List.length_map] at inside
  have before := Nat.lt_trans earlier inside
  rw [List.getElem?_map, List.getElem?_map, List.getElem?_eq_getElem before,
    List.getElem?_eq_getElem inside, Option.map_some, Option.map_some, Option.some_inj,
    salts first _ (List.getElem?_eq_getElem before),
    salts second _ (List.getElem?_eq_getElem inside)] at same
  have numbers := congrArg UInt64.toNat same
  rw [UInt64.toNat_ofNat_of_lt' (by omega), UInt64.toNat_ofNat_of_lt' (by omega)] at numbers
  omega

omit [DecidableEq Id] in
/-- A sound system has the registry it should have: its salts are counted, each record has its source,
and no wallet that was created is missing. -/
theorem Sound.tells (sound : system.Sound settings options path records) :
    system.Tells settings options path records := by
  have salts (place : Nat) (record : WalletRecord) (there : records[place]? = some record) :
      record.salt = UInt64.ofNat (place + 1) := by
    obtain ⟨id, deploys⟩ := sound.deploys_of_getElem? there
    obtain ⟨short, -⟩ := List.getElem?_eq_some_iff.mp there
    rw [Program.salt_of_deploys deploys, List.length_take_of_le (Nat.le_of_lt short)]
  refine ⟨sound.stored.stored?_eq, salts, ?_, nodup_salts salts, ?_⟩
  · intro place record there
    obtain ⟨id, deploys⟩ := sound.deploys_of_getElem? there
    have derived := Program.hasDerived_of_deploys deploys
    rw [salts place record there] at derived
    exact ⟨id, deploys, derived⟩
  · intro id record created
    obtain ⟨before, recorded⟩ := created.recorded?
    exact (sound.grown id _ recorded).subset (List.mem_append_right _ (List.mem_singleton_self _))

/-- **No lost update across processes.** From a tree without a registry on, whatever processes do that
create wallets in it, and however they fail or are killed, at most one of them is inside the lock, and
the registry tells of all that were created. -/
theorem no_lost_update (same_path : ∀ id, (options id).registry = path)
    (no_lock : Path.extension? path ≠ some "lock".toList) (fresh : tree.IsFresh)
    (missing : tree.content? (Path.destination path) = none)
    (reached : Relation.ReflTransGen Step (start tree settings options) system) :
    (∀ id other, system.IsInside id → system.IsInside other → id = other) ∧
      ∃ records, system.Tells settings options path records := by
  obtain ⟨records, sound⟩ := exists_sound same_path no_lock fresh missing reached
  exact ⟨sound.alone, records, sound.tells⟩

/-- A tree with nothing but the document of a deployment. -/
def deployedTree : FileTree where
  entries := [(["deployment.json"], .file 0)]
  contents := [(0, Bytes.ofText Deployment.Document.textOnLocalNet)]
  made := 1

/-- The tree after the lock of the registry was taken. -/
def heldTree : FileTree where
  entries := [(["deployment.json"], .file 0), (["wallets.lock"], .file 1)]
  contents := [(1, []), (0, Bytes.ofText Deployment.Document.textOnLocalNet)]
  made := 2
  locked := [1]

/-- The tree with a deployment alone is fresh. -/
theorem isFresh_deployedTree : deployedTree.IsFresh := by
  intro way number stands
  unfold FileTree.entry? deployedTree at stands
  split at stands
  · cases stands
  · rw [Association.lookup_cons_eq_ite] at stands
    split at stands
    · cases stands
      exact Nat.zero_lt_one
    · cases stands

/-- In the tree with the lock a first document can be written and be renamed to the registry's. -/
theorem exists_replaced (document : Bytes) : ∃ written after,
    heldTree.write (tempPath "wallets.json") document = .ok written ∧
      written.rename (tempPath "wallets.json") "wallets.json" = .ok after :=
  ⟨_, _, rfl, rfl⟩

/-- In the tree with the lock a first wallet can be recorded and the lock be given back. -/
theorem exists_follows_recording (record : WalletRecord) : ∃ after,
    heldTree.Follows (Program.recording record ++ [⟨.unlock ⟨1⟩, ()⟩]) after := by
  obtain ⟨written, after, writes, renames⟩ :=
    exists_replaced (Bytes.ofText (Registry.Document.render [record]))
  have replaces : heldTree.Follows (Registry.replacing ⟨"wallets.json", [record]⟩) after :=
    Registry.follows_replacing writes renames
  exact ⟨_, FileTree.follows_append_iff.mpr
    ⟨after, ⟨_, .inl rfl, _, .inl rfl, replaces⟩, _, .inl rfl, rfl⟩⟩

/-- Two processes with the same options. -/
def twoProcesses : Processes Bool :=
  start deployedTree (fun _ => []) fun _ => Program.localOptions

/-- The lock is asked for, and there is an answer. -/
def lockAsked (reply : Except LockFault LockToken) : Exchange Machine :=
  ⟨.file (.lock (lockPath "wallets.json")), reply⟩

/-- One of two processes gets the lock and the other is refused; then the first records a wallet. -/
theorem no_lost_update_recorded : ∃ between system record,
    Relation.ReflTransGen Step twoProcesses between ∧ between.IsInside true ∧
      ¬ between.IsInside false ∧ Relation.ReflTransGen Step between system ∧
      Program.HasCreated [] Program.localOptions (system.heard true) record ∧
      ∃ records, system.Tells (fun _ => []) (fun _ => Program.localOptions) "wallets.json" records ∧
        record ∈ records := by
  have nowhere : Path.directory? "wallets.json" = none := by decide
  obtain ⟨next, asks, goes_on⟩ := Program.exists_createWallet_eq_ask [] Program.localOptions nowhere
  have rests (id : Bool) : twoProcesses.rest id =
      some (.ask (.file (.lock (lockPath "wallets.json"))) next) := congrArg some asks
  have obtains : deployedTree.lock (lockPath "wallets.json") = (.ok ⟨1⟩, heldTree) := rfl
  have refuses : heldTree.lock (lockPath "wallets.json") =
    (.error (.taken .lockHeld), heldTree) := rfl
  -- Both ask for the lock before either does anything else, and one of them gets it.
  let ahead := twoProcesses.hear true (lockAsked (.ok ⟨1⟩)) (next (.ok ⟨1⟩)) heldTree
  let between := ahead.hear false (lockAsked (.error (.taken .lockHeld)))
    (next (.error (.taken .lockHeld))) heldTree
  have first : Step twoProcesses ahead := .file (rests true) (.inl obtains)
  have second : Step ahead between :=
    .file ((rest_hear_of_ne _ _ _ _ Bool.false_ne_true).trans (rests false)) (.inl refuses)
  have reached : Relation.ReflTransGen Step twoProcesses between := .tail (.single first) second
  obtain ⟨alone, -⟩ := no_lost_update (fun _ => rfl) (by decide) isFresh_deployedTree rfl reached
  have inside : between.IsInside true := ⟨rfl, nofun⟩
  obtain ⟨creating, rest, outcome, session, creation, record, creates, created, ends, files⟩ :=
    Program.exists_course ⟨1⟩
  obtain ⟨after, follows⟩ := exists_follows_recording record
  rw [← files] at follows
  have remains : between.rest true = some (Program.afterLock [] Program.localOptions ⟨1⟩) :=
    congrArg some (goes_on ⟨1⟩)
  have later := reaches_alone remains ends follows
  have heard : (between.proceed true (creating ++ rest) (.ofExcept outcome) after).heard true =
      [lockAsked (.ok ⟨1⟩)] ++ creating ++ rest := rfl
  have has_created : Program.HasCreated [] Program.localOptions
      ([lockAsked (.ok ⟨1⟩)] ++ creating ++ rest) record :=
    ⟨_, ⟨1⟩, creating, session, creation, List.prefix_append _ _,
      (Registry.ends_lock nowhere ⟨1⟩).ofFiles, creates, created⟩
  rw [← heard] at has_created
  obtain ⟨-, records, tells⟩ := no_lost_update (fun _ => rfl) (by decide) isFresh_deployedTree rfl
    (reached.trans later)
  exact ⟨between, _, record, reached, inside, fun other => absurd (alone _ _ inside other) nofun, later,
    has_created, records, tells, tells.created true record has_created⟩

end AccountRelay.Processes
