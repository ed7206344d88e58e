import AccountRelay.Proofs.Dialogue.Exchanges
import AccountRelay.Proofs.Storage.FileTree

/-! # A file system in a world of faults

A question that can fail may fail although nothing in the tree stands in its way, at once or half
way through: with some directories made, with a file opened but not locked, or with a part of a
content written (`FileTree.Fails`). With such failures beside the answers of the tree itself
(`FileTree.Answers`) each question still leaves a tree of a certain shape behind, and there is one
lemma for each that says which. What file work leaves behind in such a world (`Dialogue.Leaves`) is
told from its questions one after the other.
-/

namespace AccountRelay

namespace FileTree

/-- How a question may fail, and the tree that it may leave behind. Whether a name is there can
always be told, and a lock can always be given back. -/
inductive Fails (tree : FileTree) : (request : FileRequest) → request.Answer → FileTree → Prop
  | read (path : String) (fault : FileFault) :
    Fails tree (.read path) (.error fault : Except FileFault Bytes) tree
  /-- The directories of another path were made, such as some of those above. -/
  | createDirectories (path reached : String) (fault : FileFault) :
    Fails tree (.createDirectories path) (.error fault : Except FileFault Unit)
      (makeDirectories (reached.length + 1) tree reached).2
  | unopened (path : String) (fault : FileFault) :
    Fails tree (.lock path) (.error (.unopened fault) : Except LockFault LockToken) tree
  | untaken {path : String} {number : Nat} {after : FileTree} (fault : FileFault)
    (opened : tree.openFile path = .ok (number, after)) :
    Fails tree (.lock path) (.error (.taken fault) : Except LockFault LockToken) after
  | unwritten (path content : String) (fault : FileFault) :
    Fails tree (.write path content) (.error fault : Except FileFault Unit) tree
  /-- Anything may have been written. -/
  | torn {path : String} {number : Nat} {after : FileTree} (content : String) (fault : FileFault)
    (opened : tree.openFile path = .ok (number, after)) (part : Bytes) :
    Fails tree (.write path content) (.error fault : Except FileFault Unit)
      (after.withContent number part)
  | rename (source target : String) (fault : FileFault) :
    Fails tree (.rename source target) (.error fault : Except FileFault Unit) tree

/-- How a question may be answered, and the tree that it leaves behind. -/
def Answers (tree : FileTree) (request : FileRequest) (reply : request.Answer) (after : FileTree) :
    Prop :=
  answer request tree = (reply, after) ∨ tree.Fails request reply after

variable {tree after : FileTree} {path : String}

/-- Whether a name is there is told as it is. -/
theorem answers_hasEntry {there : Bool} (answers : tree.Answers (.hasEntry path) there after) :
    there = tree.hasEntry path ∧ after = tree := by
  rcases answers with own | fails
  · cases own
    exact ⟨rfl, rfl⟩
  · nomatch fails

/-- Who reads changes nothing, and gets the content of the file, if anything. -/
theorem answers_read {reply : Except FileFault Bytes} (answers : tree.Answers (.read path) reply after) :
    after = tree ∧ ∀ content, reply = .ok content → tree.read path = .ok content := by
  rcases answers with own | fails
  · cases own
    exact ⟨rfl, fun _ => id⟩
  · cases fails
    exact ⟨rfl, nofun⟩

/-- Who makes directories makes directories and nothing else, however far that goes. -/
theorem answers_createDirectories {reply : Except FileFault Unit}
    (answers : tree.Answers (.createDirectories path) reply after) : tree.GainsDirectories after := by
  rcases answers with own | fails
  · have made := gainsDirectories_makeDirectories (path.length + 1) tree path
    rwa [show makeDirectories (path.length + 1) tree path = (reply, after) from own] at made
  · cases fails
    exact gainsDirectories_makeDirectories _ _ _

/-- Who asks for a lock gets nothing, or opens the file, which nobody else has locked when the lock
is obtained. -/
theorem answers_lock {reply : Except LockFault LockToken}
    (answers : tree.Answers (.lock path) reply after) :
    (after = tree ∧ ∃ fault, reply = .error fault) ∨
      ∃ number, tree.OpensFile path number after ∧
        (∀ other < tree.made, after.content other = tree.content other) ∧
        (after.locked = tree.locked ∧ (∃ fault, reply = .error fault) ∨
          number ∉ tree.locked ∧ after.locked = number :: tree.locked ∧ reply = .ok ⟨number⟩) := by
  rcases answers with own | fails
  · have same : tree.lock path = (reply, after) := own
    rcases lock_cases tree path with
      ⟨fault, failed⟩ | ⟨number, later, opens, kept, ⟨-, locked, taken⟩ | ⟨free, locked, obtained⟩⟩
    · cases failed.symm.trans same
      exact .inl ⟨rfl, _, rfl⟩
    · cases taken.symm.trans same
      exact .inr ⟨number, opens, kept, .inl ⟨locked, _, rfl⟩⟩
    · cases obtained.symm.trans same
      exact .inr ⟨number, opens, kept, .inr ⟨free, locked, rfl⟩⟩
  · cases fails with
    | unopened => exact .inl ⟨rfl, _, rfl⟩
    | @untaken _ number _ _ opened =>
        obtain ⟨opens, locked, kept⟩ := opensFile_of_openFile opened
        exact .inr ⟨number, opens, kept, .inl ⟨locked, _, rfl⟩⟩

/-- Who gives a lock back has given it back. -/
theorem answers_unlock {token : LockToken} {reply : Unit}
    (answers : tree.Answers (.unlock token) reply after) :
    after = { tree with locked := tree.locked.filter (· ≠ token.file) } := by
  rcases answers with own | fails
  · cases own
    rfl
  · nomatch fails

/-- Who writes leaves the tree alone, or opens the file, which holds what was to be written when
nothing failed. -/
theorem answers_write {text : String} {reply : Except FileFault Unit}
    (answers : tree.Answers (.write path text) reply after) :
    (after = tree ∧ ∃ fault, reply = .error fault) ∨
      ∃ number, tree.OpensFile path number after ∧ after.locked = tree.locked ∧
        (reply = .ok () → after.content number = Bytes.ofText text) := by
  rcases answers with own | fails
  · have same : tree.changed (tree.write path (Bytes.ofText text)) = (reply, after) := own
    cases written : tree.write path (Bytes.ofText text) with
    | error fault =>
        rw [written] at same
        cases same
        exact .inl ⟨rfl, _, rfl⟩
    | ok later =>
        rw [written] at same
        cases same
        obtain ⟨number, opens, holds, locked⟩ := opensFile_of_write written
        exact .inr ⟨number, opens, locked, fun _ => holds⟩
  · cases fails with
    | unwritten => exact .inl ⟨rfl, _, rfl⟩
    | @torn _ number _ _ _ opened part =>
        obtain ⟨opens, locked, -⟩ := opensFile_of_openFile opened
        exact .inr ⟨number, opens.withContent part, locked, nofun⟩

/-- Who renames a file leaves the tree alone, or has renamed it. -/
theorem answers_rename {source target : String} {reply : Except FileFault Unit}
    (answers : tree.Answers (.rename source target) reply after) :
    (after = tree ∧ ∃ fault, reply = .error fault) ∨
      reply = .ok () ∧ ∃ number, tree.RenamesFile source target number after := by
  rcases answers with own | fails
  · have same : tree.changed (tree.rename source target) = (reply, after) := own
    cases renamed : tree.rename source target with
    | error fault =>
        rw [renamed] at same
        cases same
        exact .inl ⟨rfl, _, rfl⟩
    | ok later =>
        rw [renamed] at same
        cases same
        exact .inr ⟨rfl, exists_renamesFile renamed⟩
  · cases fails
    exact .inl ⟨rfl, _, rfl⟩

/-- A write that can be done may succeed. -/
theorem answer_write {text : String} (written : tree.write path (Bytes.ofText text) = .ok after) :
    answer (.write path text) tree = ((.ok () : Except FileFault Unit), after) := by
  rw [answer, written]
  rfl

/-- A renaming that can be done may succeed. -/
theorem answer_rename {source target : String} (renamed : tree.rename source target = .ok after) :
    answer (.rename source target) tree = ((.ok () : Except FileFault Unit), after) := by
  rw [answer, renamed]
  rfl

/-- File work that asks a question goes on in the tree that the question leaves behind. -/
theorem run_asking {α : Type} {request : FileRequest} {reply : request.Answer}
    {next : request.Answer → FileWork α} (answered : answer request tree = (reply, after)) :
    tree.run (Files.asking request next) = after.run (next reply) := by
  rw [run, Files.asking, Dialogue.run, answered]
  rfl

/-- However a question is answered, an orderly tree stays orderly. -/
theorem Answers.isOrderly {request : FileRequest} {reply : request.Answer}
    (answers : tree.Answers request reply after) (orderly : tree.IsOrderly) : after.IsOrderly := by
  cases request with
  | hasEntry path => exact (answers_hasEntry answers).2 ▸ orderly
  | read path => exact (answers_read answers).1 ▸ orderly
  | createDirectories path => exact (answers_createDirectories answers).isOrderly orderly
  | lock path =>
      rcases answers_lock answers with ⟨rfl, -⟩ | ⟨number, opens, -⟩
      · exact orderly
      · exact opens.isOrderly orderly
  | unlock token =>
      rw [answers_unlock answers]
      exact ⟨orderly.fresh, orderly.unlinked⟩
  | write path text =>
      rcases answers_write answers with ⟨rfl, -⟩ | ⟨number, opens, -⟩
      · exact orderly
      · exact opens.isOrderly orderly
  | rename source target =>
      rcases answers_rename answers with ⟨rfl, -⟩ | ⟨-, number, renames⟩
      · exact orderly
      · exact renames.isOrderly orderly

/-- How a tree may go on to be another in the course of exchanges. -/
def Follows : FileTree → List (Exchange Files) → FileTree → Prop
  | tree, [], after => after = tree
  | tree, exchange :: rest, after =>
    ∃ middle, tree.Answers exchange.request exchange.reply middle ∧ middle.Follows rest after

/-- A tree follows exchanges when it follows the first of them and from there the rest. -/
theorem follows_append_iff {first rest : List (Exchange Files)} :
    tree.Follows (first ++ rest) after ↔
      ∃ middle, tree.Follows first middle ∧ middle.Follows rest after := by
  induction first generalizing tree with
  | nil => exact ⟨fun follows => ⟨tree, rfl, follows⟩, fun ⟨_, same, follows⟩ => same ▸ follows⟩
  | cons exchange first ih =>
      constructor
      · rintro ⟨next, answers, follows⟩
        obtain ⟨middle, goes, follows⟩ := ih.mp follows
        exact ⟨middle, ⟨next, answers, goes⟩, follows⟩
      · rintro ⟨middle, ⟨next, answers, goes⟩, follows⟩
        exact ⟨next, answers, ih.mpr ⟨middle, goes, follows⟩⟩

/-- A tree that has come about from an orderly one, such as the empty tree, is orderly. -/
theorem Follows.isOrderly {exchanges : List (Exchange Files)} (follows : tree.Follows exchanges after)
    (orderly : tree.IsOrderly) : after.IsOrderly := by
  induction exchanges generalizing tree with
  | nil =>
      obtain rfl : after = tree := follows
      exact orderly
  | cons exchange rest ih =>
      obtain ⟨middle, answers, follows⟩ := follows
      exact ih follows (answers.isOrderly orderly)

/-- File work that is done in a tree has had some exchanges. -/
theorem exists_follows_run {α : Type} (tree : FileTree) (work : FileWork α) :
    ∃ exchanges, work.Ends exchanges (tree.run work).1 ∧
      tree.Follows exchanges (tree.run work).2 := by
  induction work generalizing tree with
  | done value => exact ⟨[], ⟨rfl, rfl⟩, rfl⟩
  | fail error => exact ⟨[], ⟨rfl, rfl⟩, rfl⟩
  | ask request follow ih =>
      obtain ⟨rest, ends, follows⟩ := ih (answer request tree).1 (answer request tree).2
      exact ⟨_ :: rest, ⟨_, rest, rfl, ends⟩, _, .inl rfl, follows⟩

end FileTree

namespace Dialogue

variable {ε ε' α β : Type}

/-- File work that ends as a condition says, with the tree that it leaves behind, however its
questions are answered. -/
def Leaves (ends : Except ε α → FileTree → Prop) : Dialogue Files ε α → FileTree → Prop
  | .done value, tree => ends (.ok value) tree
  | .fail error, tree => ends (.error error) tree
  | .ask request next, tree =>
    ∀ reply after, tree.Answers request reply after → (next reply).Leaves ends after

namespace Leaves

variable {ends : Except ε α → FileTree → Prop} {work : Dialogue Files ε α} {tree : FileTree}

/-- What is so of all ways that work can end is so of the way it has ended. -/
theorem of_ends (leaves : work.Leaves ends tree) {exchanges : List (Exchange Files)}
    {outcome : Except ε α} {after : FileTree} (ended : work.Ends exchanges outcome)
    (follows : tree.Follows exchanges after) : ends outcome after := by
  induction work generalizing tree exchanges with
  | done value =>
      obtain ⟨rfl, rfl⟩ := ended
      obtain rfl : after = tree := follows
      exact leaves
  | fail error =>
      obtain ⟨rfl, rfl⟩ := ended
      obtain rfl : after = tree := follows
      exact leaves
  | ask request next ih =>
      obtain ⟨reply, rest, rfl, ended⟩ := ended
      obtain ⟨middle, answers, follows⟩ := follows
      exact ih reply (leaves reply middle answers) ended follows

/-- Work that ends as one condition says ends as any weaker one says. -/
theorem mono {ends' : Except ε α → FileTree → Prop} (leaves : work.Leaves ends tree)
    (weaker : ∀ outcome after, ends outcome after → ends' outcome after) :
    work.Leaves ends' tree := by
  induction work generalizing tree with
  | done value => exact weaker _ _ leaves
  | fail error => exact weaker _ _ leaves
  | ask request follow ih =>
      intro reply after answers
      exact ih reply (leaves reply after answers)

/-- Work that goes on ends as the next part does behind a value, and as the first does behind a
failure. -/
theorem bind {ends' : Except ε β → FileTree → Prop} {next : α → Dialogue Files ε β}
    (leaves : work.Leaves ends tree)
    (goes_on : ∀ value after, ends (.ok value) after → (next value).Leaves ends' after)
    (gives_up : ∀ error after, ends (.error error) after → ends' (.error error) after) :
    (work >>= next).Leaves ends' tree := by
  induction work generalizing tree with
  | done value => exact goes_on value tree leaves
  | fail error => exact gives_up error tree leaves
  | ask request follow ih =>
      intro reply after answers
      exact ih reply (leaves reply after answers)

/-- An attempt leaves what is attempted leaves, with the outcome for a value. -/
theorem attempt {ends' : Except ε' (Except ε α) → FileTree → Prop}
    (leaves : work.Leaves (fun outcome after => ends' (.ok outcome) after) tree) :
    (work.attempt : Dialogue Files ε' (Except ε α)).Leaves ends' tree := by
  induction work generalizing tree with
  | done value => exact leaves
  | fail error => exact leaves
  | ask request follow ih =>
      intro reply after answers
      exact ih reply (leaves reply after answers)

/-- An outcome leaves the tree as it is. -/
theorem ofExcept {outcome : Except ε α} (ended : ends outcome tree) :
    (Dialogue.ofExcept outcome : Dialogue Files ε α).Leaves ends tree := by
  cases outcome with
  | ok value => exact ended
  | error error => exact ended

end Leaves

end Dialogue

end AccountRelay
