import AccountRelay.Proofs.Association
import AccountRelay.Proofs.Outcome
import AccountRelay.Proofs.Storage.Path
import AccountRelay.Storage.FileTree

/-! # What becomes of names and files

Names of directories stay (`FileTree.KeepsDirectories`), so a path that leads somewhere goes on to
lead there (`FileTree.locate_of_keeps`). A path that leads to a file ends in a name
(`FileTree.endsIn_of_find`). For each operation there is a lemma that says what stands under a way
and what a file holds when it has been done, and no operation gives a file a second name
(`FileTree.IsOrderly`).
-/

namespace AccountRelay.FileTree

variable {tree after : FileTree} {path : String} {way goal : List String} {number : Nat}

/-! ## Ways -/

/-- Whether all directories of a tree are still directories afterwards. -/
def KeepsDirectories (tree after : FileTree) : Prop :=
  ∀ way, tree.entry? way = some .directory → after.entry? way = some .directory

/-- Empty segments lead nowhere else. -/
theorem resolve_of_empty {segments : List String} (empty : segments.all (·.isEmpty) = true) :
    Path.resolve way segments = way := by
  induction segments with
  | nil => rfl
  | cons segment rest ih =>
      simp only [List.all_cons, Bool.and_eq_true, String.isEmpty_iff] at empty
      rw [Path.resolve, if_pos (.inl empty.1)]
      exact ih empty.2

/-- A walk that arrives has gone where the segments say, whatever the tree holds. -/
theorem walk_eq_resolve {segments : List String} (walks : tree.walk way segments = .ok goal) :
    goal = Path.resolve way segments := by
  fun_induction walk tree way segments with
  | case1 way => exact (Except.ok.inj walks).symm
  | case2 way segment rest silent ih =>
      rw [Path.resolve, if_pos silent]
      exact ih walks
  | case3 way rest spoken ih =>
      rw [Path.resolve, if_neg spoken, if_pos rfl]
      exact ih walks
  | case5 way segment rest spoken down short next last =>
      rw [Path.resolve, if_neg spoken, if_neg down, resolve_of_empty last]
      exact (Except.ok.inj walks).symm
  | case6 way segment rest spoken down short next more directory ih =>
      rw [Path.resolve, if_neg spoken, if_neg down]
      exact ih walks
  | case4 | case7 | case8 => cases walks

/-- A walk that arrives also arrives in a tree in which all directories are left. -/
theorem walk_of_keeps (keeps : tree.KeepsDirectories after) {segments : List String}
    (walks : tree.walk way segments = .ok goal) : after.walk way segments = .ok goal := by
  fun_induction walk tree way segments with
  | case1 way => exact walks
  | case2 way segment rest silent ih =>
      rw [walk, if_pos silent]
      exact ih walks
  | case3 way rest spoken ih =>
      rw [walk, if_neg spoken, if_pos rfl]
      exact ih walks
  | case5 way segment rest spoken down short next last =>
      rw [walk, if_neg spoken, if_neg down, if_neg short]
      exact (if_pos last).trans walks
  | case6 way segment rest spoken down short next more directory ih =>
      have kept : after.entry? (way ++ [segment]) = some .directory := keeps _ directory
      rw [walk, if_neg spoken, if_neg down, if_neg short]
      simp only [if_neg more, kept]
      exact ih walks
  | case4 | case7 | case8 => cases walks

/-- Whether a way leads to a directory through directories. -/
def LeadsDown (tree : FileTree) (way : List String) : Prop :=
  ∀ above, above <+: way → tree.entry? above = some .directory

/-- Segments that end in one or two dots lead to a directory. -/
theorem leadsDown_of_walk (down : tree.LeadsDown way) {segments : List String} {last : String}
    (ends : segments.getLast? = some last) (dots : last = "." ∨ last = "..")
    (walks : tree.walk way segments = .ok goal) : tree.LeadsDown goal := by
  fun_induction walk tree way segments with
  | case1 way => cases ends
  | case2 way segment rest silent ih =>
      cases rest with
      | nil =>
          rw [← Except.ok.inj walks]
          exact down
      | cons next rest => exact ih down ends walks
  | case3 way rest spoken ih =>
      have up : tree.LeadsDown way.dropLast :=
        fun above before => down above (before.trans (List.dropLast_prefix way))
      cases rest with
      | nil =>
          rw [← Except.ok.inj walks]
          exact up
      | cons next rest => exact ih up ends walks
  | case5 way segment rest spoken below short next empty =>
      exfalso
      -- Behind the name that is looked up stand separators only, so the last segment is no dots.
      have member := List.mem_of_getLast? ends
      rcases List.mem_cons.mp member with rfl | behind
      · rcases dots with dot | dots
        · exact spoken (.inr dot)
        · exact below dots
      · have no_text := List.all_eq_true.mp empty last behind
        rw [String.isEmpty_iff] at no_text
        rcases dots with rfl | rfl
        · exact absurd no_text (by decide)
        · exact absurd no_text (by decide)
  | case6 way segment rest spoken below short next more directory ih =>
      have further : tree.LeadsDown (way ++ [segment]) := by
        intro above before
        rcases List.prefix_concat_iff.mp before with rfl | before
        · exact directory
        · exact down above before
      cases rest with
      | nil => exact absurd rfl more
      | cons other rest => exact ih further ends walks
  | case4 | case7 | case8 => cases walks

/-- The way to the root leads down. -/
theorem leadsDown_nil (tree : FileTree) : tree.LeadsDown [] := by
  intro above before
  rw [List.prefix_nil.mp before]
  rfl

/-! ## Paths -/

/-- A path is located when it is not empty, not too long and without the character zero, and the walk
along its segments arrives. -/
theorem locate_eq_ok_iff : tree.locate path = .ok goal ↔
    path ≠ "" ∧ '\x00' ∉ path.toList ∧ path.utf8ByteSize ≤ longestPath ∧
      tree.walk [] ((Path.segments path.toList).map String.ofList) = .ok goal := by
  simp only [locate, String.isEmpty_iff]
  split
  · simp_all
  · split
    · simp_all
    · split
      · rename_i long
        simp only [reduceCtorEq, Nat.not_le.mpr long, false_and, and_false]
      · simp_all

/-- Where a path is located depends on its text alone. -/
theorem locate_eq_destination (located : tree.locate path = .ok goal) :
    goal = Path.destination path :=
  walk_eq_resolve (locate_eq_ok_iff.mp located).2.2.2

/-- A path that is located is located at the same place while all directories are left. -/
theorem locate_of_keeps (keeps : tree.KeepsDirectories after) (located : tree.locate path = .ok goal) :
    after.locate path = .ok goal := by
  obtain ⟨some_path, no_zero, short, walks⟩ := locate_eq_ok_iff.mp located
  exact locate_eq_ok_iff.mpr ⟨some_path, no_zero, short, walk_of_keeps keeps walks⟩

/-- A path leads to a file when it is located, the file stands there, and no slash is behind it. -/
theorem find_eq_file_iff : tree.find path = .ok (.file number) ↔
    tree.locate path = .ok (Path.destination path) ∧
      tree.entry? (Path.destination path) = some (.file number) ∧
        Path.endsInSlash path = false := by
  cases located : tree.locate path with
  | error fault => simp [find, located, Bind.bind, Except.bind]
  | ok goal =>
      obtain rfl := locate_eq_destination located
      cases stands : tree.entry? (Path.destination path) with
      | none => simp [find, located, stands, Bind.bind, Except.bind]
      | some entry =>
          cases entry with
          | directory => simp [find, located, stands, Bind.bind, Except.bind, Pure.pure, Except.pure]
          | file other =>
              cases slash : Path.endsInSlash path with
              | true => simp [find, located, stands, slash, Bind.bind, Except.bind]
              | false =>
                  simp [find, located, stands, slash, Bind.bind, Except.bind, Pure.pure, Except.pure]

/-- A path that leads to a file ends in a name. -/
theorem endsIn_of_find (found : tree.find path = .ok (.file number)) :
    ∃ front name, Path.EndsIn path front name := by
  obtain ⟨located, stands, no_slash⟩ := find_eq_file_iff.mp found
  obtain ⟨some_path, -, -, walks⟩ := locate_eq_ok_iff.mp located
  rcases List.eq_nil_or_concat (Path.segments path.toList) with none | ⟨front, name, segments_eq⟩
  · exact absurd none (Text.pieces_ne_nil '/' path.toList)
  · rw [List.concat_eq_append] at segments_eq
    have no_dots (dots : name = ['.'] ∨ name = ['.', '.']) : False := by
      have last : ((Path.segments path.toList).map String.ofList).getLast? =
          some (String.ofList name) := by
        rw [segments_eq]
        simp
      have down := leadsDown_of_walk (leadsDown_nil tree) last
        (dots.imp (congrArg String.ofList) (congrArg String.ofList)) walks
      rw [down _ List.prefix_rfl] at stands
      cases stands
    refine ⟨front, name, segments_eq, ?_, fun dot => no_dots (.inl dot),
      fun dots => no_dots (.inr dots)⟩
    rintro rfl
    have text : path.toList = front.flatMap (· ++ ['/']) := by
      have whole := Text.joined_pieces '/' path.toList
      rw [Path.segments] at segments_eq
      rw [segments_eq, Text.joined_concat, List.append_nil] at whole
      exact whole.symm
    rcases List.eq_nil_or_concat front with rfl | ⟨before, last, rfl⟩
    · exact some_path (String.toList_eq_nil_iff.mp text)
    · have slash : path.toList.getLast? = some '/' := by
        rw [text]
        simp
      simp [Path.endsInSlash, slash] at no_slash

/-- What is read is the content of the file that the path leads to. -/
theorem read_eq_ok_iff {content : Bytes} : tree.read path = .ok content ↔
    ∃ number, tree.find path = .ok (.file number) ∧ content = tree.content number := by
  constructor
  · intro reads
    obtain ⟨entry, found, reads⟩ := Outcome.bind_eq_ok_iff.mp reads
    cases entry with
    | directory => cases reads
    | file number => exact ⟨number, found, (Except.ok.inj reads).symm⟩
  · rintro ⟨number, found, rfl⟩
    exact Outcome.bind_eq_ok_iff.mpr ⟨_, found, rfl⟩

/-- A path goes on leading to its file when the directories are left and the same thing stands where it
leads. -/
theorem find_of_keeps (keeps : tree.KeepsDirectories after) (found : tree.find path = .ok (.file number))
    (same : after.entry? (Path.destination path) = tree.entry? (Path.destination path)) :
    after.find path = .ok (.file number) := by
  obtain ⟨located, stands, no_slash⟩ := find_eq_file_iff.mp found
  exact find_eq_file_iff.mpr ⟨locate_of_keeps keeps located, same.trans stands, no_slash⟩

/-- Locks do not matter for a walk. -/
theorem walk_relocked (tree : FileTree) (locked : List Nat) (way segments : List String) :
    walk { tree with locked } way segments = tree.walk way segments := by
  induction segments generalizing way with
  | nil => rfl
  | cons segment rest ih =>
      have same : entry? { tree with locked } (way ++ [segment]) = tree.entry? (way ++ [segment]) := rfl
      simp only [walk, ih, same]

/-- What a path leads to does not depend on locks. -/
theorem find_relocked (tree : FileTree) (locked : List Nat) (path : String) :
    find { tree with locked } path = tree.find path := by
  have same : locate { tree with locked } path = tree.locate path := by
    simp only [locate, walk_relocked]
  rw [find, find, same]
  rfl

/-- What is read does not depend on locks. -/
theorem read_relocked (tree : FileTree) (locked : List Nat) (path : String) :
    read { tree with locked } path = tree.read path := by
  rw [read, read, find_relocked]
  rfl

/-! ## Entries and contents -/

/-- A new name stands beside the names that were there. -/
theorem entry?_of_entries_append {entry : Entry} (absent : tree.entry? way = none)
    (entries_eq : after.entries = tree.entries ++ [(way, entry)]) (other : List String) :
    after.entry? other = if other = way then some entry else tree.entry? other := by
  have not_root : way ≠ [] := by
    rintro rfl
    cases absent
  unfold entry? at absent ⊢
  rw [if_neg not_root] at absent
  rw [entries_eq, Association.lookup_concat absent]
  by_cases root : other = []
  · subst root
    rw [if_pos rfl, if_pos rfl, if_neg not_root.symm]
  · rw [if_neg root, if_neg root]

/-- A name that was removed leads nowhere, and every other leads where it led. -/
theorem entry?_removeEntry (tree : FileTree) (some_way : way ≠ []) (other : List String) :
    entry? (tree.removeEntry way) other = if other = way then none else tree.entry? other := by
  unfold entry? removeEntry
  rw [Association.lookup_filter_ne]
  by_cases root : other = []
  · subst root
    simp [some_way.symm]
  · simp [root]

/-- A file that is given a content has it, and all others keep theirs. -/
theorem content_withContent (tree : FileTree) (number other : Nat) (content : Bytes) :
    (tree.withContent number content).content other =
      if other = number then content else tree.content other := by
  unfold FileTree.content withContent
  rw [Association.lookup_cons_eq_ite, Association.lookup_filter_ne]
  by_cases own : other = number
  · rw [if_pos own, if_pos own, Option.getD_some]
  · rw [if_neg own, if_neg own, if_neg own]

/-- Under a name that stands for a file the content is that of the file. -/
theorem content?_of_file {way : List String} (stands : tree.entry? way = some (.file number)) :
    tree.content? way = some (tree.content number) := by
  rw [FileTree.content?, stands]

/-! ## Operations -/

/-- What a tree is after directories were made: some ways that led nowhere lead to one. -/
structure GainsDirectories (tree after : FileTree) : Prop where
  stands : ∀ way, after.entry? way = tree.entry? way ∨
    tree.entry? way = none ∧ after.entry? way = some .directory
  contents : after.contents = tree.contents
  made : after.made = tree.made
  locked : after.locked = tree.locked

namespace GainsDirectories

/-- A tree gains nothing by being left alone. -/
theorem refl (tree : FileTree) : tree.GainsDirectories tree :=
  ⟨fun _ => .inl rfl, rfl, rfl, rfl⟩

/-- What is gained in two steps is gained. -/
theorem trans {later : FileTree} (first : tree.GainsDirectories after)
    (second : after.GainsDirectories later) : tree.GainsDirectories later := by
  refine ⟨?_, second.contents.trans first.contents, second.made.trans first.made,
    second.locked.trans first.locked⟩
  intro way
  rcases second.stands way with same | ⟨absent, directory⟩
  · rw [same]
    exact first.stands way
  · rcases first.stands way with same | ⟨-, before⟩
    · exact .inr ⟨same ▸ absent, directory⟩
    · rw [before] at absent
      cases absent

/-- A tree that gains directories keeps those it had. -/
theorem keepsDirectories (gains : tree.GainsDirectories after) : tree.KeepsDirectories after := by
  intro way directory
  rcases gains.stands way with same | ⟨absent, -⟩
  · exact same.trans directory
  · rw [absent] at directory
    cases directory

/-- Gaining directories neither makes nor moves a file. -/
theorem file_iff (gains : tree.GainsDirectories after) :
    after.entry? way = some (.file number) ↔ tree.entry? way = some (.file number) := by
  rcases gains.stands way with same | ⟨absent, directory⟩
  · rw [same]
  · rw [absent, directory]
    simp

/-- A path that led to a file still leads to it when directories were gained. -/
theorem find_eq_of_find (gains : tree.GainsDirectories after)
    (found : tree.find path = .ok (.file number)) : after.find path = .ok (.file number) := by
  apply find_of_keeps gains.keepsDirectories found
  rw [(find_eq_file_iff.mp found).2.1, gains.file_iff]
  exact (find_eq_file_iff.mp found).2.1

/-- Gaining directories changes no content. -/
theorem content (gains : tree.GainsDirectories after) (number : Nat) :
    after.content number = tree.content number := by
  rw [FileTree.content, FileTree.content, gains.contents]

/-- Under every name there is the content that was there before directories were gained. -/
theorem content?_eq (gains : tree.GainsDirectories after) (way : List String) :
    after.content? way = tree.content? way := by
  rcases gains.stands way with same | ⟨absent, directory⟩
  · simp only [FileTree.content?, same, gains.content]
  · simp only [FileTree.content?, absent, directory]

end GainsDirectories

/-- A directory that is made is gained. -/
theorem gainsDirectories_of_makeDirectory (makes : tree.makeDirectory path = .ok after) :
    tree.GainsDirectories after := by
  obtain ⟨way, -, makes⟩ := Outcome.bind_eq_ok_iff.mp makes
  cases stands : tree.entry? way with
  | some entry =>
      rw [stands] at makes
      cases makes
  | none =>
      rw [stands] at makes
      obtain ⟨_, -, makes⟩ := Outcome.bind_eq_ok_iff.mp makes
      cases makes
      refine ⟨?_, rfl, rfl, rfl⟩
      intro other
      rw [entry?_of_entries_append stands rfl]
      by_cases own : other = way
      · subst own
        exact .inr ⟨stands, if_pos rfl⟩
      · exact .inl (if_neg own)

/-- Making directories, however far it gets, gains directories and nothing else. -/
theorem gainsDirectories_makeDirectories (count : Nat) (tree : FileTree) (path : String) :
    tree.GainsDirectories (makeDirectories count tree path).2 := by
  induction count generalizing tree path with
  | zero => exact .refl tree
  | succ count ih =>
      unfold makeDirectories
      split
      · exact .refl tree
      · split
        · rename_i made
          exact gainsDirectories_of_makeDirectory made
        · split
          · exact .refl tree
          · rename_i parent _
            have above := ih tree parent
            split
            · rename_i fault later failed
              rw [failed] at above
              exact above
            · rename_i later done
              rw [done] at above
              split
              · rename_i made
                exact above.trans (gainsDirectories_of_makeDirectory made)
              · exact above
        · exact .refl tree

/-- Whether the next number is one that no file has. -/
def IsFresh (tree : FileTree) : Prop :=
  ∀ way number, tree.entry? way = some (.file number) → number < tree.made

/-- In the empty tree no name stands for a file. -/
theorem entry?_empty_ne_file (way : List String) (number : Nat) :
    entry? {} way ≠ some (.file number) := by
  unfold entry?
  split
  · exact nofun
  · exact nofun

/-- In the empty tree the next number is free. -/
theorem isFresh_empty : ({} : FileTree).IsFresh :=
  fun way number stands => absurd stands (entry?_empty_ne_file way number)

/-- The next number stays free when directories are gained. -/
theorem GainsDirectories.isFresh (gains : tree.GainsDirectories after) (fresh : tree.IsFresh) :
    after.IsFresh := by
  intro way number stands
  rw [gains.made]
  exact fresh way number (gains.file_iff.mp stands)

/-- What a tree is after a file was opened, which was there or was made. -/
structure OpensFile (tree : FileTree) (path : String) (number : Nat) (after : FileTree) : Prop where
  located : tree.locate path = .ok (Path.destination path)
  no_slash : Path.endsInSlash path = false
  before : tree.entry? (Path.destination path) = some (.file number) ∨
    tree.entry? (Path.destination path) = none ∧ number = tree.made
  stands : ∀ way, after.entry? way =
    if way = Path.destination path then some (.file number) else tree.entry? way
  content : ∀ other, other ≠ number → after.content other = tree.content other
  isFresh : tree.IsFresh → after.IsFresh

namespace OpensFile

/-- Opening a file keeps all directories. -/
theorem keepsDirectories (opens : tree.OpensFile path number after) :
    tree.KeepsDirectories after := by
  intro way directory
  rw [opens.stands]
  split
  · rename_i own
    subst own
    rcases opens.before with file | ⟨absent, -⟩
    · rw [file] at directory
      cases directory
    · rw [absent] at directory
      cases directory
  · exact directory

/-- The path of a file that was opened leads to it. -/
theorem find_eq (opens : tree.OpensFile path number after) : after.find path = .ok (.file number) :=
  find_eq_file_iff.mpr ⟨locate_of_keeps opens.keepsDirectories opens.located,
    (opens.stands _).trans (if_pos rfl), opens.no_slash⟩

/-- A file under another name is another one, unless both names were there. -/
theorem ne_of_fresh (opens : tree.OpensFile path number after) (fresh : tree.IsFresh) {other : Nat}
    (stands : tree.entry? way = some (.file other))
    (apart : tree.entry? (Path.destination path) ≠ some (.file other)) : other ≠ number := by
  rintro rfl
  rcases opens.before with file | ⟨-, rfl⟩
  · exact apart file
  · exact Nat.lt_irrefl _ (fresh way _ stands)

/-- What was found before is still found. -/
theorem find_eq_of_find (opens : tree.OpensFile path number after) {other : String} {there : Nat}
    (found : tree.find other = .ok (.file there)) : after.find other = .ok (.file there) := by
  apply find_of_keeps opens.keepsDirectories found
  rw [opens.stands]
  split
  · rename_i same
    have stands := (find_eq_file_iff.mp found).2.1
    rw [same] at stands ⊢
    rcases opens.before with file | ⟨absent, -⟩
    · exact file.symm
    · rw [stands] at absent
      cases absent
  · rfl

end OpensFile

/-- A file that could be opened was there or was made, and neither the locks nor the content of a file
that was there has changed. -/
theorem opensFile_of_openFile (opened : tree.openFile path = .ok (number, after)) :
    tree.OpensFile path number after ∧ after.locked = tree.locked ∧
      ∀ other < tree.made, after.content other = tree.content other := by
  obtain ⟨goal, located, opened⟩ := Outcome.bind_eq_ok_iff.mp opened
  obtain rfl := locate_eq_destination located
  cases slash : Path.endsInSlash path with
  | true =>
      rw [slash] at opened
      cases opened
  | false =>
      rw [slash] at opened
      cases stands : tree.entry? (Path.destination path) with
      | none =>
          simp only [stands] at opened
          obtain ⟨_, -, opened⟩ := Outcome.bind_eq_ok_iff.mp opened
          cases opened
          have kept (other : Nat) (apart : other ≠ tree.made) :
              FileTree.content { tree with contents := (tree.made, []) :: tree.contents } other =
                tree.content other := by
            rw [FileTree.content, Association.lookup_cons_eq_ite, if_neg apart, FileTree.content]
          refine ⟨⟨located, slash, .inr ⟨stands, rfl⟩, entry?_of_entries_append stands rfl, ?_, ?_⟩, rfl,
            ?_⟩
          · exact kept
          · intro fresh way number found
            rw [entry?_of_entries_append stands rfl] at found
            split at found
            · cases found
              exact Nat.lt_succ_self _
            · exact Nat.lt_succ_of_lt (fresh way number found)
          · exact fun other earlier => kept other (Nat.ne_of_lt earlier)
      | some entry =>
          simp only [stands] at opened
          cases entry with
          | directory => cases opened
          | file other =>
              cases opened
              refine ⟨⟨located, slash, .inl stands, ?_, fun _ _ => rfl, id⟩, rfl, fun _ _ => rfl⟩
              intro way
              split
              · rename_i own
                rw [own, stands]
              · rfl

/-- A file that was opened is still the opened one when it is given a content. -/
theorem OpensFile.withContent (opens : tree.OpensFile path number after) (content : Bytes) :
    tree.OpensFile path number (after.withContent number content) := by
  refine ⟨opens.located, opens.no_slash, opens.before, opens.stands, ?_, opens.isFresh⟩
  intro other apart
  rw [content_withContent, if_neg apart, opens.content other apart]

/-- A file that was written was opened, and holds what was written. -/
theorem opensFile_of_write {content : Bytes} (written : tree.write path content = .ok after) :
    ∃ number, tree.OpensFile path number after ∧ after.content number = content ∧
      after.locked = tree.locked := by
  obtain ⟨⟨number, opened⟩, opens, written⟩ := Outcome.bind_eq_ok_iff.mp written
  obtain ⟨opens, locked, -⟩ := opensFile_of_openFile opens
  cases written
  exact ⟨number, opens.withContent content, by rw [content_withContent, if_pos rfl], locked⟩

/-- What a tree is after a lock was asked for. -/
theorem lock_cases (tree : FileTree) (path : String) :
    (∃ fault, tree.lock path = (.error (.unopened fault), tree)) ∨
      ∃ number after, tree.OpensFile path number after ∧
        (∀ other < tree.made, after.content other = tree.content other) ∧
        (number ∈ tree.locked ∧ after.locked = tree.locked ∧
            tree.lock path = (.error (.taken .lockHeld), after) ∨
          number ∉ tree.locked ∧ after.locked = number :: tree.locked ∧
            tree.lock path = (.ok ⟨number⟩, after)) := by
  unfold lock
  cases opened : tree.openFile path with
  | error fault => exact .inl ⟨fault, rfl⟩
  | ok found =>
      obtain ⟨number, after⟩ := found
      obtain ⟨opens, locked, kept⟩ := opensFile_of_openFile opened
      refine .inr ⟨number, ?_⟩
      by_cases taken : number ∈ after.locked
      · exact ⟨after, opens, kept, .inl ⟨locked ▸ taken, locked, if_pos taken⟩⟩
      · refine ⟨{ after with locked := number :: after.locked }, ?_, kept,
          .inr ⟨locked ▸ taken, by rw [← locked], if_neg taken⟩⟩
        exact ⟨opens.located, opens.no_slash, opens.before, opens.stands, opens.content, opens.isFresh⟩

/-- What a tree is after a file was given another name. -/
structure RenamesFile (tree : FileTree) (source target : String) (number : Nat) (after : FileTree) :
    Prop where
  found : tree.find source = .ok (.file number)
  located : tree.locate target = .ok (Path.destination target)
  no_slash : Path.endsInSlash target = false
  no_directory : tree.entry? (Path.destination target) ≠ some .directory
  stands : ∀ way, after.entry? way =
    if way = Path.destination target then some (.file number)
    else if way = Path.destination source then none else tree.entry? way
  contents : after.contents = tree.contents
  made : after.made = tree.made
  locked : after.locked = tree.locked

namespace RenamesFile

variable {source target : String}

/-- Giving a file another name keeps all directories. -/
theorem keepsDirectories (renames : tree.RenamesFile source target number after) :
    tree.KeepsDirectories after := by
  intro way directory
  rw [renames.stands]
  split
  · rename_i own
    exact absurd (own ▸ directory) renames.no_directory
  · split
    · rename_i own
      rw [own, (find_eq_file_iff.mp renames.found).2.1] at directory
      cases directory
    · exact directory

/-- The new name of a file leads to it. -/
theorem find_target (renames : tree.RenamesFile source target number after) :
    after.find target = .ok (.file number) :=
  find_eq_file_iff.mpr ⟨locate_of_keeps renames.keepsDirectories renames.located,
    (renames.stands _).trans (if_pos rfl), renames.no_slash⟩

/-- A path that leads neither to the old name nor to the new one still leads to its file. -/
theorem find_eq_of_find (renames : tree.RenamesFile source target number after) {other : String}
    {there : Nat} (found : tree.find other = .ok (.file there))
    (off_source : Path.destination other ≠ Path.destination source)
    (off_target : Path.destination other ≠ Path.destination target) :
    after.find other = .ok (.file there) := by
  apply find_of_keeps renames.keepsDirectories found
  rw [renames.stands, if_neg off_target, if_neg off_source]

/-- Another name changes no content. -/
theorem content (renames : tree.RenamesFile source target number after) (other : Nat) :
    after.content other = tree.content other := by
  rw [FileTree.content, FileTree.content, renames.contents]

/-- The next number stays free when a file is given another name. -/
theorem isFresh (renames : tree.RenamesFile source target number after) (fresh : tree.IsFresh) :
    after.IsFresh := by
  intro way other stands
  rw [renames.made]
  rw [renames.stands] at stands
  split at stands
  · cases stands
    exact fresh _ _ (find_eq_file_iff.mp renames.found).2.1
  · split at stands
    · cases stands
    · exact fresh _ _ stands

end RenamesFile

/-- After a move the goal stands for the file, the start for nothing, and every other name for what it
stood for. -/
theorem entry?_moved {start : List String} (stands : tree.entry? start = some (.file number))
    (no_directory : tree.entry? goal ≠ some .directory) (other : List String) :
    entry? { tree with
        entries := ((tree.removeEntry start).removeEntry goal).entries ++ [(goal, .file number)] } other =
      if other = goal then some (.file number)
      else if other = start then none else tree.entry? other := by
  have some_start : start ≠ [] := by
    rintro rfl
    cases stands
  have some_goal : goal ≠ [] := by
    rintro rfl
    exact no_directory rfl
  have absent : entry? ((tree.removeEntry start).removeEntry goal) goal = none := by
    rw [entry?_removeEntry _ some_goal, if_pos rfl]
  rw [entry?_of_entries_append absent rfl]
  split
  · rfl
  · rename_i apart
    rw [entry?_removeEntry _ some_goal, if_neg apart, entry?_removeEntry _ some_start]

/-- A renaming that succeeds has given a file another name. -/
theorem exists_renamesFile {source target : String} (renamed : tree.rename source target = .ok after) :
    ∃ number, tree.RenamesFile source target number after := by
  obtain ⟨origin, found, renamed⟩ := Outcome.bind_eq_ok_iff.mp renamed
  obtain ⟨start, start_located, renamed⟩ := Outcome.bind_eq_ok_iff.mp renamed
  obtain ⟨goal, located, renamed⟩ := Outcome.bind_eq_ok_iff.mp renamed
  obtain rfl := locate_eq_destination start_located
  obtain rfl := locate_eq_destination located
  cases origin with
  | directory => cases renamed
  | file number =>
      have stands := (find_eq_file_iff.mp found).2.1
      dsimp only at renamed
      -- Each check that fails ends in a fault; what is left is the case in which all pass.
      cases dots : Path.endsInDots target with
      | true =>
          rw [dots] at renamed
          cases renamed
      | false =>
          rw [dots] at renamed
          cases slash : Path.endsInSlash target with
          | true =>
              rw [slash] at renamed
              cases renamed
          | false =>
              rw [slash] at renamed
              by_cases directory : tree.entry? (Path.destination target) = some .directory
              · simp only [directory] at renamed
                cases renamed
              · simp only [directory, Bool.false_eq_true, ↓reduceIte] at renamed
                obtain ⟨_, -, renamed⟩ := Outcome.bind_eq_ok_iff.mp renamed
                cases renamed
                exact ⟨number, found, located, slash, directory, entry?_moved stands directory, rfl, rfl,
                  rfl⟩

/-! ## Names of a file -/

/-- Whether every file has one name at most, and a number below the next one. -/
structure IsOrderly (tree : FileTree) : Prop where
  fresh : tree.IsFresh
  unlinked : ∀ way other number, tree.entry? way = some (.file number) →
    tree.entry? other = some (.file number) → way = other

/-- The empty tree is orderly. -/
theorem isOrderly_empty : ({} : FileTree).IsOrderly :=
  ⟨isFresh_empty, fun way _ number stands => absurd stands (entry?_empty_ne_file way number)⟩

/-- A tree that gains directories stays orderly. -/
theorem GainsDirectories.isOrderly (gains : tree.GainsDirectories after) (orderly : tree.IsOrderly) :
    after.IsOrderly := by
  refine ⟨gains.isFresh orderly.fresh, ?_⟩
  intro way other number stands also
  exact orderly.unlinked way other number (gains.file_iff.mp stands) (gains.file_iff.mp also)

/-- A tree in which a file is opened stays orderly. -/
theorem OpensFile.isOrderly (opens : tree.OpensFile path number after) (orderly : tree.IsOrderly) :
    after.IsOrderly := by
  -- the file that was opened has the name it was opened under, and had no other before
  have own {way : List String} (stands : tree.entry? way = some (.file number)) :
      way = Path.destination path := by
    rcases opens.before with file | ⟨-, rfl⟩
    · exact orderly.unlinked _ _ _ stands file
    · exact absurd (orderly.fresh _ _ stands) (Nat.lt_irrefl _)
  refine ⟨opens.isFresh orderly.fresh, ?_⟩
  intro way other there stands also
  rw [opens.stands] at stands also
  split at stands
  · rename_i here
    cases stands
    split at also
    · rename_i same
      exact here.trans same.symm
    · exact here.trans (own also).symm
  · split at also
    · rename_i here
      cases also
      exact (own stands).trans here.symm
    · exact orderly.unlinked _ _ _ stands also

/-- A tree in which a file is given another name stays orderly. -/
theorem RenamesFile.isOrderly {source target : String}
    (renames : tree.RenamesFile source target number after) (orderly : tree.IsOrderly) :
    after.IsOrderly := by
  -- the file that was renamed had no other name than the one it lost
  have own {way : List String} (stands : tree.entry? way = some (.file number)) :
      way = Path.destination source :=
    orderly.unlinked _ _ _ stands (find_eq_file_iff.mp renames.found).2.1
  refine ⟨renames.isFresh orderly.fresh, ?_⟩
  intro way other there stands also
  rw [renames.stands] at stands also
  split at stands
  · rename_i here
    cases stands
    split at also
    · rename_i same
      exact here.trans same.symm
    · split at also
      · cases also
      · rename_i off_source
        exact absurd (own also) off_source
  · split at stands
    · cases stands
    · rename_i off_source
      split at also
      · cases also
        exact absurd (own stands) off_source
      · split at also
        · cases also
        · exact orderly.unlinked _ _ _ stands also

end AccountRelay.FileTree
