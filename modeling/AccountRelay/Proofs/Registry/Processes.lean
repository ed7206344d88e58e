import AccountRelay.Proofs.Registry.Creating
import AccountRelay.Proofs.Storage.Faults
import Mathlib.Logic.Function.Basic
import Mathlib.Logic.Relation

/-! # Processes that create wallets

Any number of processes create wallets on one file system. In each step one of them has one question
answered, or is killed and loses its locks (`Processes.Step`); file questions may fail, and all other
answers may be anything.

A step keeps processes sound (`Sound.step`): at most one has the lock, that one knows what records
are stored, and each stored record is that of a wallet which some process has had deployed.
-/

namespace AccountRelay

open CommandLine (OperationOptions)
open Registry (Deploys Permits Stage Stored lockPath stage tempPath)

variable {Id : Type}

/-- Processes on one file system. -/
structure Processes (Id : Type) where
  tree : FileTree
  /-- What a process still has to do, unless it was killed. -/
  rest : Id → Option (MachineWork Unit)
  heard : Id → List (Exchange Machine)

/-- The locks held after an exchange. -/
def Machine.holding (locks : List LockToken) : Exchange Machine → List LockToken
  | ⟨.file (.lock _), .ok token⟩ => token :: locks
  | ⟨.file (.unlock token), _⟩ => locks.filter (· ≠ token)
  | _ => locks

/-- The locks held after exchanges. -/
def Machine.held (heard : List (Exchange Machine)) : List LockToken :=
  heard.foldl holding []

/-- The locks held after one more exchange are told from those held before. -/
theorem Machine.held_concat (heard : List (Exchange Machine)) (exchange : Exchange Machine) :
    held (heard ++ [exchange]) = holding (held heard) exchange := by
  rw [held, List.foldl_append]
  rfl

namespace Processes

/-- Processes that are about to create a wallet each. -/
def start (tree : FileTree) (settings : Id → Settings) (options : Id → OperationOptions) :
    Processes Id where
  tree
  rest id := some (Program.createWallet (settings id) (options id))
  heard _ := []

variable [DecidableEq Id]

/-- The processes after one of them has had an answer. -/
def hear (system : Processes Id) (id : Id) (exchange : Exchange Machine) (rest : MachineWork Unit)
    (tree : FileTree) : Processes Id where
  tree
  rest := Function.update system.rest id (some rest)
  heard := Function.update system.heard id (system.heard id ++ [exchange])

/-- The processes after one of them was killed, which gives its locks back. -/
def kill (system : Processes Id) (id : Id) : Processes Id where
  tree := { system.tree with
    locked := system.tree.locked.filter fun file => ⟨file⟩ ∉ Machine.held (system.heard id) }
  rest := Function.update system.rest id none
  heard := system.heard

/-- One step of one process. -/
inductive Step (system : Processes Id) : Processes Id → Prop
  | file {id : Id} {request : FileRequest} {next : request.Answer → MachineWork Unit}
    {reply : request.Answer} {after : FileTree}
    (rests : system.rest id = some (.ask (.file request) next))
    (answers : system.tree.Answers request reply after) :
    Step system (system.hear id ⟨.file request, reply⟩ (next reply) after)
  | other {id : Id} {request : MachineRequest} {next : request.Answer → MachineWork Unit}
    (reply : request.Answer) (rests : system.rest id = some (.ask request next))
    (elsewhere : ∀ question, request ≠ .file question) :
    Step system (system.hear id ⟨request, reply⟩ (next reply) system.tree)
  | killed {id : Id} {rest : MachineWork Unit} (rests : system.rest id = some rest) :
    Step system (system.kill id)

/-- Whether a process is between taking a lock and giving it back. -/
def IsInside (system : Processes Id) (id : Id) : Prop :=
  (system.rest id).isSome ∧ Machine.held (system.heard id) ≠ []

section Hear

variable (system : Processes Id) (id : Id) (exchange : Exchange Machine) (rest : MachineWork Unit)
  (after : FileTree)

/-- Who had the answer goes on with it. -/
theorem rest_hear_self : (system.hear id exchange rest after).rest id = some rest :=
  Function.update_self ..

/-- Who had the answer has heard it last. -/
theorem heard_hear_self :
    (system.hear id exchange rest after).heard id = system.heard id ++ [exchange] :=
  Function.update_self ..

variable {id} {other : Id} (apart : other ≠ id)

include apart

/-- Nobody else goes on with an answer. -/
theorem rest_hear_of_ne : (system.hear id exchange rest after).rest other = system.rest other :=
  Function.update_of_ne apart ..

/-- Nobody else has heard an answer. -/
theorem heard_hear_of_ne : (system.hear id exchange rest after).heard other = system.heard other :=
  Function.update_of_ne apart ..

/-- An answer to somebody else lets nobody in or out. -/
theorem isInside_hear_of_ne :
    (system.hear id exchange rest after).IsInside other ↔ system.IsInside other := by
  rw [IsInside, IsInside, rest_hear_of_ne _ _ _ _ apart, heard_hear_of_ne _ _ _ _ apart]

omit apart in
/-- What is so of the process that had the answer, and of all others as they were, is so of all. -/
@[elab_as_elim]
theorem forall_hear {motive : Id → Option (MachineWork Unit) → List (Exchange Machine) → Prop}
    (own : motive id (some rest) (system.heard id ++ [exchange]))
    (others : ∀ other, other ≠ id → motive other (system.rest other) (system.heard other))
    (other : Id) :
    motive other ((system.hear id exchange rest after).rest other)
      ((system.hear id exchange rest after).heard other) := by
  by_cases apart : other = id
  · subst apart
    rw [rest_hear_self, heard_hear_self]
    exact own
  · rw [rest_hear_of_ne _ _ _ _ apart, heard_hear_of_ne _ _ _ _ apart]
    exact others other apart

end Hear

/-- Whoever has an answer, what was heard is still heard. -/
theorem heard_prefix_hear (system : Processes Id) (id other : Id) (exchange : Exchange Machine)
    (rest : MachineWork Unit) (after : FileTree) :
    system.heard other <+: (system.hear id exchange rest after).heard other := by
  refine forall_hear system exchange rest after ?_ ?_ other
  · exact List.prefix_append _ _
  · exact fun _ _ => List.prefix_rfl

/-- A process that was killed does nothing any more. -/
theorem rest_kill_self (system : Processes Id) (id : Id) : (system.kill id).rest id = none :=
  Function.update_self ..

/-- All other processes go on when one is killed. -/
theorem rest_kill_of_ne (system : Processes Id) {id other : Id} (apart : other ≠ id) :
    (system.kill id).rest other = system.rest other :=
  Function.update_of_ne apart ..

end Processes

/-! ## What a stage says about the files -/

namespace Registry

variable {tree after : FileTree} {path : String} {records longer : List WalletRecord}
  {token : LockToken}

/-- Whether a lock of a registry is held. -/
def Locks (tree : FileTree) (path : String) (token : LockToken) : Prop :=
  tree.find (lockPath path) = .ok (.file token.file) ∧ token.file ∈ tree.locked

/-- Whether records wait under the temporary name of a registry. -/
def Waits (tree : FileTree) (path : String) (records : List WalletRecord) : Prop :=
  ∃ number, tree.find (tempPath path) = .ok (.file number) ∧
    tree.content number = Bytes.ofText (Document.render records)

/-- What is so in the files while a run is in a stage, and which records are stored. -/
def Stage.Fits (tree : FileTree) (path : String) (records : List WalletRecord) : Stage → Prop
  | .outside | .released _ => True
  | .locked token | .recorded token _ => Locks tree path token
  | .opened token own => Locks tree path token ∧ own = records
  | .written token own longer => Locks tree path token ∧ own = records ∧ Waits tree path longer

namespace Stage.Fits

variable {stage : Stage}

/-- Without a lock a stage says nothing about the files. -/
theorem of_free (free : stage.token? = none) : stage.Fits tree path records := by
  cases stage with
  | outside | released => trivial
  | locked | opened | written | recorded => cases free

/-- A stage with a lock says that the lock is held. -/
theorem locks (fits : stage.Fits tree path records) (held : stage.token? = some token) :
    Locks tree path token := by
  cases stage with
  | outside | released => cases held
  | locked | recorded =>
      cases held
      exact fits
  | opened | written =>
      cases held
      exact fits.1

/-- What a stage says stays true while its lock stays held and its records go on waiting. -/
theorem frame (fits : stage.Fits tree path records)
    (locks : ∀ token, Locks tree path token → Locks after path token)
    (waits : ∀ longer, Waits tree path longer → Waits after path longer) :
    stage.Fits after path records := by
  cases stage with
  | outside | released => trivial
  | locked | recorded => exact locks _ fits
  | opened => exact ⟨locks _ fits.1, fits.2⟩
  | written => exact ⟨locks _ fits.1, fits.2.1, waits _ fits.2.2⟩

end Stage.Fits

/-- A lock stays held when directories are gained. -/
theorem Locks.gains (locks : Locks tree path token) (gains : tree.GainsDirectories after) :
    Locks after path token :=
  ⟨gains.find_eq_of_find locks.1, by rw [gains.locked]; exact locks.2⟩

/-- Records go on waiting when directories are gained. -/
theorem Waits.gains (waits : Waits tree path records) (gains : tree.GainsDirectories after) :
    Waits after path records := by
  obtain ⟨number, found, holds⟩ := waits
  exact ⟨number, gains.find_eq_of_find found, by rw [gains.content, holds]⟩

end Registry

namespace Processes

variable [DecidableEq Id] {settings : Id → Settings} {options : Id → OperationOptions}
  {path : String} {system : Processes Id} {records : List WalletRecord}

/-! ## Sound processes -/

/-- What is so at all times, with the records that are stored. -/
structure Sound (settings : Id → Settings) (options : Id → OperationOptions) (path : String)
    (system : Processes Id) (records : List WalletRecord) : Prop where
  stored : Stored system.tree path records
  keeps : ∀ id rest, system.rest id = some rest →
    rest.Keeps (.byHistory (Permits (settings id) (options id))) (fun _ _ => True) (system.heard id)
  held : ∀ id, Machine.held (system.heard id) = (stage (system.heard id)).token?.toList
  fits : ∀ id, (system.rest id).isSome → (stage (system.heard id)).Fits system.tree path records
  alone : ∀ id other, system.IsInside id → system.IsInside other → id = other
  grown : ∀ id own, (stage (system.heard id)).recorded? = some own → own <+: records
  sourced : ∀ before record, before ++ [record] <+: records →
    ∃ id, Deploys (settings id) (options id) (system.heard id) before record

omit [DecidableEq Id] in
/-- Processes that are about to begin are sound, and nothing is stored. -/
theorem sound_start {tree : FileTree} (fresh : tree.IsFresh)
    (missing : tree.content? (Path.destination path) = none) :
    (start tree settings options).Sound settings options path [] where
  stored := Registry.stored_of_missing fresh missing
  keeps id rest same := by
    cases same
    exact Program.keeps_createWallet _ _
  held _ := rfl
  fits _ _ := trivial
  alone _ _ inside := absurd rfl inside.2
  grown _ _ recorded := nomatch recorded
  sourced before record first := by
    have empty := List.prefix_nil.mp first
    simp at empty

namespace Sound

/-- Processes stay sound when one of them has had an answer, if that is so for the files and for its
own stage, and if the others are not concerned. -/
theorem hear (sound : system.Sound settings options path records) {id : Id}
    {request : MachineRequest} {next : request.Answer → MachineWork Unit} {reply : request.Answer}
    {after : FileTree} {longer : List WalletRecord}
    (rests : system.rest id = some (.ask request next))
    (stored : Stored after path longer)
    (held : Machine.holding (stage (system.heard id)).token?.toList ⟨request, reply⟩ =
      ((stage (system.heard id)).next ⟨request, reply⟩).token?.toList)
    (own : ((stage (system.heard id)).next ⟨request, reply⟩).Fits after path longer)
    (others : ∀ other, other ≠ id → (system.rest other).isSome →
      (stage (system.heard other)).Fits after path longer)
    (alone : ((stage (system.heard id)).next ⟨request, reply⟩).token? ≠ none →
      ∀ other, other ≠ id → ¬ system.IsInside other)
    (grown : records <+: longer)
    (own_grown : ∀ own, ((stage (system.heard id)).next ⟨request, reply⟩).recorded? = some own →
      own <+: longer)
    (sourced : ∀ before record, before ++ [record] <+: longer → before ++ [record] <+: records ∨
      Deploys (settings id) (options id) (system.heard id) before record) :
    (system.hear id ⟨request, reply⟩ (next reply) after).Sound settings options path longer := by
  have held_after : Machine.held (system.heard id ++ [⟨request, reply⟩]) =
      (stage (system.heard id ++ [⟨request, reply⟩])).token?.toList := by
    rw [Machine.held_concat, sound.held, held, Registry.stage_concat]
  have stays_out {other : Id} (apart : other ≠ id)
      (inside : (system.hear id ⟨request, reply⟩ (next reply) after).IsInside id) :
      ¬ (system.hear id ⟨request, reply⟩ (next reply) after).IsInside other := by
    rw [isInside_hear_of_ne _ _ _ _ apart]
    apply alone _ other apart
    intro free
    apply inside.2
    rw [heard_hear_self, held_after, Registry.stage_concat, free]
    rfl
  exact {
    stored := stored
    keeps := by
      intro other
      refine forall_hear system _ _ _ ?_ (fun other _ => sound.keeps other) other
      intro rest same
      cases same
      exact (sound.keeps id _ rests).2 reply trivial
    held := forall_hear system _ _ _ held_after fun other _ => sound.held other
    fits := by
      intro other
      refine forall_hear system _ _ _ ?_ others other
      rw [Registry.stage_concat]
      exact fun _ => own
    alone := by
      intro first second first_inside second_inside
      by_cases first_own : first = id
      · subst first_own
        by_contra apart
        exact stays_out (Ne.symm apart) first_inside second_inside
      · by_cases second_own : second = id
        · subst second_own
          exact absurd first_inside (stays_out first_own second_inside)
        · exact sound.alone first second
            ((isInside_hear_of_ne _ _ _ _ first_own).mp first_inside)
            ((isInside_hear_of_ne _ _ _ _ second_own).mp second_inside)
    grown := by
      intro other
      refine forall_hear system _ _ _ ?_ ?_ other
      · rw [Registry.stage_concat]
        exact own_grown
      · exact fun other _ list recorded => (sound.grown other list recorded).trans grown
    sourced := by
      intro before record first
      rcases sourced before record first with known | deploys
      · obtain ⟨source, deploys⟩ := sound.sourced before record known
        exact ⟨source, deploys.of_prefix (heard_prefix_hear ..)⟩
      · exact ⟨id, deploys.of_prefix (heard_prefix_hear ..)⟩ }

omit [DecidableEq Id] in
/-- A process is inside when it is alive and its stage has a lock. -/
theorem isInside_iff (sound : system.Sound settings options path records) (id : Id) :
    system.IsInside id ↔
      (system.rest id).isSome ∧ (stage (system.heard id)).token? ≠ none := by
  rw [IsInside, sound.held]
  cases (stage (system.heard id)).token? with
  | none => simp
  | some token => simp

omit [DecidableEq Id] in
/-- Beside a process that is inside all others have no lock. -/
theorem free_of_inside (sound : system.Sound settings options path records) {id other : Id}
    (inside : system.IsInside id) (apart : other ≠ id) (alive : (system.rest other).isSome) :
    (stage (system.heard other)).token? = none := by
  by_contra held
  exact apart (sound.alone other id ((sound.isInside_iff other).mpr ⟨alive, held⟩) inside)

/-- Processes stay sound when one of them has had an answer that leaves its locks, its recorded list
and the stored records as they are. -/
theorem hear_within (sound : system.Sound settings options path records) {id : Id}
    {request : MachineRequest} {next : request.Answer → MachineWork Unit} {reply : request.Answer}
    {after : FileTree} (rests : system.rest id = some (.ask request next))
    (stored : Stored after path records)
    (calm : ∀ locks, Machine.holding locks ⟨request, reply⟩ = locks)
    (same_token : ((stage (system.heard id)).next ⟨request, reply⟩).token? =
      (stage (system.heard id)).token?)
    (same_recorded : ((stage (system.heard id)).next ⟨request, reply⟩).recorded? =
      (stage (system.heard id)).recorded?)
    (own : ((stage (system.heard id)).next ⟨request, reply⟩).Fits after path records)
    (others : ∀ other, other ≠ id → (system.rest other).isSome →
      (stage (system.heard other)).Fits after path records) :
    (system.hear id ⟨request, reply⟩ (next reply) after).Sound settings options path records := by
  apply sound.hear rests stored
  · rw [calm, same_token]
  · exact own
  · exact others
  · intro held other apart inside
    rw [same_token] at held
    have alive : (system.rest id).isSome := by rw [rests]; rfl
    exact apart (sound.alone other id inside ((sound.isInside_iff id).mpr ⟨alive, held⟩))
  · exact List.prefix_rfl
  · intro list recorded
    rw [same_recorded] at recorded
    exact sound.grown id list recorded
  · exact fun _ _ => .inl

variable {id : Id}

/-- A question that leaves all stages alone may change the tree, as long as locks stay held and
records that wait go on waiting. -/
theorem hear_frame (sound : system.Sound settings options path records) {request : MachineRequest}
    {next : request.Answer → MachineWork Unit} {reply : request.Answer} {after : FileTree}
    (rests : system.rest id = some (.ask request next)) (stored : Stored after path records)
    (calm : ∀ locks, Machine.holding locks ⟨request, reply⟩ = locks)
    (same : (stage (system.heard id)).next ⟨request, reply⟩ = stage (system.heard id))
    (locks : ∀ token, Registry.Locks system.tree path token → Registry.Locks after path token)
    (waits : ∀ longer, Registry.Waits system.tree path longer → Registry.Waits after path longer) :
    (system.hear id ⟨request, reply⟩ (next reply) after).Sound settings options path records := by
  apply sound.hear_within rests stored calm
  · rw [same]
  · rw [same]
  · rw [same]
    exact (sound.fits id (by rw [rests]; rfl)).frame locks waits
  · exact fun other _ alive => (sound.fits other alive).frame locks waits

/-- Processes stay sound when one of them asks for something that is no file. -/
theorem hear_elsewhere (sound : system.Sound settings options path records)
    {request : MachineRequest} {next : request.Answer → MachineWork Unit} (reply : request.Answer)
    (rests : system.rest id = some (.ask request next))
    (elsewhere : ∀ question, request ≠ .file question) :
    (system.hear id ⟨request, reply⟩ (next reply) system.tree).Sound settings options path records := by
  apply sound.hear_frame rests sound.stored _ (Stage.next_elsewhere _ elsewhere reply)
    (fun _ locks => locks) fun _ waits => waits
  intro locks
  cases request with
  | file question => exact absurd rfl (elsewhere question)
  | environment | node | http | host => rfl

/-- A look at the files tells a process, at most, which records are stored. -/
theorem hear_look (sound : system.Sound settings options path records) {request : FileRequest}
    {next : request.Answer → MachineWork Unit} {reply : request.Answer}
    (rests : system.rest id = some (.ask (.file request) next))
    (calm : ∀ locks, Machine.holding locks ⟨.file request, reply⟩ = locks)
    (tells : (stage (system.heard id)).next ⟨.file request, reply⟩ = stage (system.heard id) ∨
      ∃ token, stage (system.heard id) = .locked token ∧
        (stage (system.heard id)).next ⟨.file request, reply⟩ = .opened token records) :
    (system.hear id ⟨.file request, reply⟩ (next reply) system.tree).Sound settings options path
      records := by
  rcases tells with same | ⟨token, locked, opened⟩
  · exact sound.hear_frame rests sound.stored calm same (fun _ locks => locks)
      fun _ waits => waits
  · have fits := sound.fits id (by rw [rests]; rfl)
    rw [locked] at fits
    apply sound.hear_within rests sound.stored calm
    · rw [opened, locked]
      rfl
    · rw [opened, locked]
      rfl
    · rw [opened]
      exact ⟨fits, rfl⟩
    · exact fun other _ => sound.fits other

omit [DecidableEq Id] in
/-- While nobody locks the file that stands, or is made, at the lock's path, nobody has the lock. -/
theorem free_of_unlocked (sound : system.Sound settings options path records) {number : Nat}
    {after : FileTree} (opens : system.tree.OpensFile (lockPath path) number after)
    (free : number ∉ system.tree.locked) {other : Id} (alive : (system.rest other).isSome) :
    (stage (system.heard other)).token? = none := by
  by_contra held
  obtain ⟨token, held⟩ := Option.ne_none_iff_exists'.mp held
  have locks := (sound.fits other alive).locks held
  have same := (opens.find_eq_of_find locks.1).symm.trans opens.find_eq
  cases token
  cases same
  exact free locks.2

/-- Processes stay sound when one of them asks for the lock: it gets it only while nobody else is
inside. -/
theorem hear_lock (sound : system.Sound settings options path records)
    (no_lock : Path.extension? path ≠ some "lock".toList)
    {next : Except LockFault LockToken → MachineWork Unit} {reply : Except LockFault LockToken}
    {after : FileTree} (rests : system.rest id = some (.ask (.file (.lock (lockPath path))) next))
    (answers : system.tree.Answers (.lock (lockPath path)) reply after)
    (outside : stage (system.heard id) = .outside) :
    (system.hear id ⟨.file (.lock (lockPath path)), reply⟩ (next reply) after).Sound settings options
      path records := by
  have fresh := sound.stored.fresh
  have made {there : String} {number : Nat} (found : system.tree.find there = .ok (.file number)) :
      number < system.tree.made :=
    fresh _ _ (FileTree.find_eq_file_iff.mp found).2.1
  rcases FileTree.answers_lock answers with ⟨rfl, fault, rfl⟩ | ⟨number, opens, kept, obtained⟩
  · exact sound.hear_frame rests sound.stored (fun _ => rfl) (by rw [outside]; rfl)
      (fun _ locks => locks) fun _ waits => waits
  -- The lock file is opened, and made if need be, before it shows whether the lock is free.
  have stored : Stored after path records := by
    apply sound.stored.opens opens
    · intro front name ends
      exact Registry.destination_lockPath_ne ends no_lock
    · exact fun there found => kept there (made found)
  rcases obtained with ⟨locked, fault, rfl⟩ | ⟨free, locked, rfl⟩
  · apply sound.hear_frame rests stored (fun _ => rfl) (by rw [outside]; rfl)
    · intro token locks
      exact ⟨opens.find_eq_of_find locks.1, by rw [locked]; exact locks.2⟩
    · intro longer waits
      obtain ⟨there, found, holds⟩ := waits
      exact ⟨there, opens.find_eq_of_find found, by rw [kept there (made found), holds]⟩
  · have others (other : Id) (alive : (system.rest other).isSome) :
        (stage (system.heard other)).token? = none := sound.free_of_unlocked opens free alive
    have now : (stage (system.heard id)).next ⟨.file (.lock (lockPath path)), .ok ⟨number⟩⟩ =
        .locked ⟨number⟩ := by
      rw [outside]
      rfl
    apply sound.hear rests stored
    · rw [now, outside]
      rfl
    · rw [now]
      exact ⟨opens.find_eq, by rw [locked]; exact List.mem_cons_self⟩
    · exact fun other _ alive => .of_free (others other alive)
    · intro _ other _ inside
      have alive := (sound.isInside_iff other).mp inside
      exact alive.2 (others other alive.1)
    · exact List.prefix_rfl
    · rw [now]
      exact nofun
    · exact fun _ _ => .inl

/-- Processes stay sound when one of them gives the lock back. -/
theorem hear_unlock (sound : system.Sound settings options path records) {token : LockToken}
    {next : Unit → MachineWork Unit} {reply : Unit} {after : FileTree}
    (rests : system.rest id = some (.ask (.file (.unlock token)) next))
    (answers : system.tree.Answers (.unlock token) reply after)
    (held : (stage (system.heard id)).token? = some token) :
    (system.hear id ⟨.file (.unlock token), reply⟩ (next reply) after).Sound settings options path
      records := by
  have inside : system.IsInside id :=
    (sound.isInside_iff id).mpr ⟨by rw [rests]; rfl, by rw [held]; exact nofun⟩
  have now : (stage (system.heard id)).next ⟨.file (.unlock token), reply⟩ =
      .released (stage (system.heard id)).recorded? := Stage.next_unlock _ token reply
  obtain rfl := FileTree.answers_unlock answers
  apply sound.hear rests (sound.stored.relocked _)
  · rw [now, held]
    simp [Machine.holding, Stage.token?]
  · rw [now]
    trivial
  · exact fun other apart alive => .of_free (sound.free_of_inside inside apart alive)
  · rw [now]
    exact fun held => absurd rfl held
  · exact List.prefix_rfl
  · rw [now]
    exact sound.grown id
  · exact fun _ _ => .inl

/-- Processes stay sound when the one that is inside writes under the temporary name: the stored
records are not concerned. -/
theorem hear_write (sound : system.Sound settings options path records) {token : LockToken}
    {own : List WalletRecord} {record : WalletRecord} {next : Except FileFault Unit → MachineWork Unit}
    {reply : Except FileFault Unit} {after : FileTree} {text : String}
    (rests : system.rest id = some (.ask (.file (.write (tempPath path) text)) next))
    (answers : system.tree.Answers (.write (tempPath path) text) reply after)
    (opened : stage (system.heard id) = .opened token own)
    (longer : text = Registry.Document.render (own ++ [record])) :
    (system.hear id ⟨.file (.write (tempPath path) text), reply⟩ (next reply) after).Sound settings
      options path records := by
  have alive : (system.rest id).isSome := by rw [rests]; rfl
  have inside : system.IsInside id :=
    (sound.isInside_iff id).mpr ⟨alive, by rw [opened]; exact nofun⟩
  have fits := sound.fits id alive
  rw [opened] at fits
  have steps := (stage (system.heard id)).next_write (tempPath path) text reply
  rcases FileTree.answers_write answers with ⟨rfl, fault, rfl⟩ | ⟨number, opens, locked, written⟩
  · exact sound.hear_frame rests sound.stored (fun _ => rfl) (by rw [opened]; rfl)
      (fun _ locks => locks) fun _ waits => waits
  have stored := sound.stored.opens_tempPath opens
  have locks : Registry.Locks after path token :=
    ⟨opens.find_eq_of_find fits.1.1, by rw [locked]; exact fits.1.2⟩
  have others (other : Id) (apart : other ≠ id) (alive : (system.rest other).isSome) :
      (stage (system.heard other)).Fits after path records :=
    .of_free (sound.free_of_inside inside apart alive)
  -- A document may be torn by a write that fails, but it does not have the registry's name yet.
  rcases steps with same | ⟨_, _, list, now_opened, rfl, read, now⟩
  · apply sound.hear_within rests stored (fun _ => rfl)
    · rw [same]
    · rw [same]
    · rw [same, opened]
      exact ⟨locks, fits.2⟩
    · exact others
  · cases opened.symm.trans now_opened
    rw [longer, Registry.Document.read_render] at read
    cases read
    apply sound.hear_within rests stored (fun _ => rfl)
    · rw [now, opened]
      rfl
    · rw [now, opened]
      rfl
    · rw [now]
      exact ⟨locks, fits.2, number, opens.find_eq, by rw [written rfl, longer]⟩
    · exact others

/-- Processes stay sound when the one that is inside has the temporary file take the registry's name:
the records are the longer ones then, if that succeeds. -/
theorem hear_rename (sound : system.Sound settings options path records)
    (no_lock : Path.extension? path ≠ some "lock".toList) {token : LockToken}
    {own : List WalletRecord} {record : WalletRecord} {next : Except FileFault Unit → MachineWork Unit}
    {reply : Except FileFault Unit} {after : FileTree}
    (rests : system.rest id = some (.ask (.file (.rename (tempPath path) path)) next))
    (answers : system.tree.Answers (.rename (tempPath path) path) reply after)
    (written : stage (system.heard id) = .written token own (own ++ [record]))
    (deploys : Deploys (settings id) (options id) (system.heard id) own record) :
    ∃ longer, (system.hear id ⟨.file (.rename (tempPath path) path), reply⟩ (next reply) after).Sound
      settings options path longer := by
  have alive : (system.rest id).isSome := by rw [rests]; rfl
  have inside : system.IsInside id :=
    (sound.isInside_iff id).mpr ⟨alive, by rw [written]; exact nofun⟩
  have fits := sound.fits id alive
  rw [written] at fits
  obtain ⟨locks, rfl, there, found, holds⟩ := fits
  rcases FileTree.answers_rename answers with ⟨rfl, fault, rfl⟩ | ⟨rfl, number, renames⟩
  · exact ⟨own, sound.hear_frame rests sound.stored (fun _ => rfl) (by rw [written]; rfl)
      (fun _ locks => locks) fun _ waits => waits⟩
  · cases found.symm.trans renames.found
    obtain ⟨front, name, ends⟩ := FileTree.endsIn_of_find renames.find_target
    have now : (stage (system.heard id)).next ⟨.file (.rename (tempPath path) path), .ok ()⟩ =
        .recorded token (own ++ [record]) := by
      rw [written]
      rfl
    refine ⟨own ++ [record], sound.hear rests
      (Registry.stored_of_renames sound.stored.fresh renames holds) ?_ ?_ ?_ ?_ ?_ ?_ ?_⟩
    · rw [now, written]
      rfl
    · rw [now]
      refine ⟨renames.find_eq_of_find locks.1 ?_ ?_, by rw [renames.locked]; exact locks.2⟩
      · exact Registry.destination_lockPath_ne_tempPath ends locks.1 renames.found
      · exact Registry.destination_lockPath_ne ends no_lock
    · exact fun other apart alive => .of_free (sound.free_of_inside inside apart alive)
    · exact fun _ other apart also => apart (sound.alone other id also inside)
    · exact List.prefix_append _ _
    · rw [now]
      intro list recorded
      cases recorded
      exact List.prefix_rfl
    · intro before last first
      rcases List.prefix_concat_iff.mp first with whole | first
      · obtain ⟨rfl, same⟩ := List.append_inj' whole rfl
        cases same
        exact .inr deploys
      · exact .inl first

/-- Processes stay sound when one of them is killed. -/
theorem kill (sound : system.Sound settings options path records)
    (alive : (system.rest id).isSome) : (system.kill id).Sound settings options path records := by
  have spared {other : Id} (lives : ((system.kill id).rest other).isSome) :
      other ≠ id ∧ (system.rest other).isSome := by
    have apart : other ≠ id := by
      rintro rfl
      rw [rest_kill_self] at lives
      cases lives
    refine ⟨apart, ?_⟩
    rwa [rest_kill_of_ne _ apart] at lives
  have inside_of {other : Id} (inside : (system.kill id).IsInside other) : system.IsInside other :=
    ⟨(spared inside.1).2, inside.2⟩
  refine ⟨sound.stored.relocked _, ?_, sound.held, ?_, ?_, sound.grown, sound.sourced⟩
  · intro other rest same
    have lives := spared (by rw [same]; rfl)
    rw [rest_kill_of_ne _ lives.1] at same
    exact sound.keeps other rest same
  · intro other lives
    obtain ⟨apart, also_alive⟩ := spared lives
    by_cases inside : system.IsInside id
    · exact .of_free (sound.free_of_inside inside apart also_alive)
    · -- who has no lock takes none along
      have nothing : Machine.held (system.heard id) = [] := by
        by_contra held
        exact inside ⟨alive, held⟩
      have kept : (system.tree.locked.filter fun file =>
          (⟨file⟩ : LockToken) ∉ Machine.held (system.heard id)) = system.tree.locked :=
        List.filter_eq_self.mpr (by simp [nothing])
      rw [Processes.kill, kept]
      exact sound.fits other also_alive
  · exact fun first second first_inside second_inside =>
      sound.alone first second (inside_of first_inside) (inside_of second_inside)

/-- **A step of any process** keeps them all sound. -/
theorem step {after : Processes Id} (sound : system.Sound settings options path records)
    (same_path : ∀ id, (options id).registry = path)
    (no_lock : Path.extension? path ≠ some "lock".toList) (steps : system.Step after) :
    ∃ longer, after.Sound settings options path longer := by
  cases steps with
  | killed rests => exact ⟨records, sound.kill (by rw [rests]; rfl)⟩
  | other reply rests elsewhere => exact ⟨records, sound.hear_elsewhere reply rests elsewhere⟩
  | @file id request next reply later rests answers =>
      have permitted := (sound.keeps id _ rests).1
      -- What may be asked at a stage is asked of the one registry, under its path.
      cases request with
      | hasEntry asked =>
          obtain ⟨rfl, rfl⟩ := FileTree.answers_hasEntry answers
          refine ⟨records, sound.hear_look rests (fun _ => rfl) ?_⟩
          rcases Stage.next_hasEntry _ asked _ with same | ⟨token, locked, absent, opened⟩
          · exact .inl same
          · obtain rfl : asked = path := (permitted token locked).trans (same_path id)
            rw [sound.stored.eq_nil_of_hasEntry absent]
            exact .inr ⟨token, locked, opened⟩
      | read asked =>
          obtain ⟨rfl, reads⟩ := FileTree.answers_read answers
          refine ⟨records, sound.hear_look rests (fun _ => rfl) ?_⟩
          rcases Stage.next_read _ asked reply with
            same | ⟨token, content, list, locked, rfl, spelled, opened⟩
          · exact .inl same
          · obtain rfl : asked = path := (permitted token locked).trans (same_path id)
            cases (sound.stored.spelled?_of_read (reads content rfl)).symm.trans spelled
            exact .inr ⟨token, locked, opened⟩
      | createDirectories asked =>
          have gains := FileTree.answers_createDirectories answers
          exact ⟨records, sound.hear_frame rests (sound.stored.gains gains) (fun _ => rfl)
            (Stage.next_createDirectories _ asked reply) (fun _ locks => locks.gains gains)
            fun _ waits => waits.gains gains⟩
      | lock asked =>
          obtain ⟨asked_eq, outside⟩ := permitted
          obtain rfl : asked = lockPath path := asked_eq.trans (congrArg lockPath (same_path id))
          exact ⟨records, sound.hear_lock no_lock rests answers outside⟩
      | unlock token => exact ⟨records, sound.hear_unlock rests answers permitted⟩
      | write asked text =>
          obtain ⟨asked_eq, token, own, record, opened, longer⟩ := permitted
          obtain rfl : asked = tempPath path := asked_eq.trans (congrArg tempPath (same_path id))
          exact ⟨records, sound.hear_write rests answers opened longer⟩
      | rename source target =>
          obtain ⟨source_eq, target_eq, token, own, record, written, deploys⟩ := permitted
          obtain rfl : source = tempPath path := source_eq.trans (congrArg tempPath (same_path id))
          obtain rfl : target = path := target_eq.trans (same_path id)
          exact sound.hear_rename no_lock rests answers written deploys

end Sound

end Processes

end AccountRelay
