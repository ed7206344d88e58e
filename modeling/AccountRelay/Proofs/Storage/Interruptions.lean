import AccountRelay.Proofs.Storage.Faults

/-! # File work that is cut short

Whoever reads a file meanwhile, or finds it after work was broken off, sees the tree as it is between
two of the work's questions. `Dialogue.Throughout` says what is true of all these trees, and
`FileTree.Spares` that what a path leads to is the same in a later tree: a file that is made beside
it, or a directory, spares it.
-/

namespace AccountRelay

namespace Dialogue

variable {ε ε' α β : Type} {holds : FileTree → Prop} {tree : FileTree}

/-- File work in whose course a condition holds of the tree, from the start and after each answer. -/
def Throughout (holds : FileTree → Prop) : Dialogue Files ε α → FileTree → Prop
  | .done _, tree => holds tree
  | .fail _, tree => holds tree
  | .ask request next, tree =>
    holds tree ∧ ∀ reply after, tree.Answers request reply after → (next reply).Throughout holds after

namespace Throughout

variable {work : Dialogue Files ε α}

/-- However many of the questions are asked. -/
theorem of_prefix (throughout : work.Throughout holds tree)
    {exchanges executed : List (Exchange Files)} {outcome : Except ε α} {later : FileTree}
    (ends : work.Ends exchanges outcome) (begins : executed <+: exchanges)
    (follows : tree.Follows executed later) : holds later := by
  induction work generalizing tree exchanges executed with
  | done value =>
      obtain ⟨rfl, -⟩ := ends
      obtain rfl := List.prefix_nil.mp begins
      obtain rfl : later = tree := follows
      exact throughout
  | fail error =>
      obtain ⟨rfl, -⟩ := ends
      obtain rfl := List.prefix_nil.mp begins
      obtain rfl : later = tree := follows
      exact throughout
  | ask request next ih =>
      obtain ⟨reply, rest, rfl, ends⟩ := ends
      rcases List.prefix_cons_iff.mp begins with rfl | ⟨shorter, rfl, goes_on⟩
      · obtain rfl : later = tree := follows
        exact throughout.1
      · obtain ⟨middle, answers, follows⟩ := follows
        exact ih reply (throughout.2 reply middle answers) ends goes_on follows

/-- A condition that holds throughout the first work, and throughout the rest from wherever the first
leaves the tree, holds throughout both. -/
theorem bind {ends : Except ε α → FileTree → Prop} {next : α → Dialogue Files ε β}
    (throughout : work.Throughout holds tree) (leaves : work.Leaves ends tree)
    (goes_on : ∀ value after, ends (.ok value) after → (next value).Throughout holds after) :
    (work >>= next).Throughout holds tree := by
  induction work generalizing tree with
  | done value => exact goes_on value tree leaves
  | fail error => exact throughout
  | ask request follow ih =>
      refine ⟨throughout.1, ?_⟩
      intro reply after answers
      exact ih reply (throughout.2 reply after answers) (leaves reply after answers)

/-- Changing the result of some work does not change the trees it passes through. -/
theorem bind_done {next : α → β} (throughout : work.Throughout holds tree) :
    (work >>= fun value => .done (next value)).Throughout holds tree := by
  induction work generalizing tree with
  | done value => exact throughout
  | fail error => exact throughout
  | ask request follow ih =>
      refine ⟨throughout.1, ?_⟩
      intro reply after answers
      exact ih reply (throughout.2 reply after answers)

/-- Work that catches its failure passes through the same trees. -/
theorem attempt (throughout : work.Throughout holds tree) :
    (work.attempt : Dialogue Files ε' (Except ε α)).Throughout holds tree := by
  induction work generalizing tree with
  | done value => exact throughout
  | fail error => exact throughout
  | ask request follow ih =>
      refine ⟨throughout.1, ?_⟩
      intro reply after answers
      exact ih reply (throughout.2 reply after answers)

/-- A result that is there already passes through the tree it finds. -/
theorem ofExcept {outcome : Except ε α} (held : holds tree) :
    (Dialogue.ofExcept outcome : Dialogue Files ε α).Throughout holds tree := by
  cases outcome with
  | ok value => exact held
  | error error => exact held

end Throughout

end Dialogue

namespace FileTree

variable {tree middle after : FileTree} {path : String} {number : Nat}

/-- Whether a file is left as it is, and none is there that was not there before. A path that begins
to lead somewhere, when directories it goes through are made, may lead to a file that there was. -/
structure Spares (tree : FileTree) (path : String) (after : FileTree) : Prop where
  reads : ∀ content, tree.read path = .ok content → after.read path = .ok content
  read_before : ∀ content, after.read path = .ok content →
    tree.content? (Path.destination path) = some content

namespace Spares

/-- A tree spares every path to itself. -/
theorem refl (tree : FileTree) (path : String) : tree.Spares path tree := by
  refine ⟨fun _ => id, ?_⟩
  intro content reads
  obtain ⟨number, found, rfl⟩ := read_eq_ok_iff.mp reads
  exact content?_of_file (find_eq_file_iff.mp found).2.1

/-- Directories that were made first do not matter to the path that is spared. -/
theorem after_gains (gains : tree.GainsDirectories middle) (spares : middle.Spares path after) :
    tree.Spares path after := by
  constructor
  · intro content reads
    obtain ⟨number, found, rfl⟩ := read_eq_ok_iff.mp reads
    rw [← gains.content]
    exact spares.reads _ (read_eq_ok_iff.mpr ⟨number, gains.find_eq_of_find found, rfl⟩)
  · intro content reads
    rw [← gains.content?_eq]
    exact spares.read_before content reads

/-- A tree that only gains directories spares every path. -/
theorem of_gains (gains : tree.GainsDirectories after) : tree.Spares path after :=
  after_gains gains (.refl after path)

/-- A file that is opened under another name spares what has no second name. -/
theorem of_opens {other : String} (opens : tree.OpensFile other number after)
    (orderly : tree.IsOrderly)
    (elsewhere : ∀ front name, Path.EndsIn path front name →
      Path.destination other ≠ Path.destination path) : tree.Spares path after := by
  have kept {there : Nat} (apart : Path.destination other ≠ Path.destination path)
      (stands : tree.entry? (Path.destination path) = some (.file there)) :
      after.content there = tree.content there := by
    apply opens.content
    exact opens.ne_of_fresh orderly.fresh stands
      fun also => apart (orderly.unlinked _ _ _ also stands)
  constructor
  · intro content reads
    obtain ⟨there, found, rfl⟩ := read_eq_ok_iff.mp reads
    obtain ⟨front, name, ends⟩ := endsIn_of_find found
    rw [← kept (elsewhere front name ends) (find_eq_file_iff.mp found).2.1]
    exact read_eq_ok_iff.mpr ⟨there, opens.find_eq_of_find found, rfl⟩
  · intro content reads
    obtain ⟨there, found, rfl⟩ := read_eq_ok_iff.mp reads
    obtain ⟨front, name, ends⟩ := endsIn_of_find found
    have apart := elsewhere front name ends
    have stands := (find_eq_file_iff.mp found).2.1
    rw [opens.stands, if_neg apart.symm] at stands
    rw [kept apart stands]
    exact content?_of_file stands

end Spares

end FileTree

end AccountRelay
