import AccountRelay.Proofs.Registry.Document
import AccountRelay.Proofs.Storage.FileTree
import AccountRelay.Registry.Store

/-! # Registries in a file tree

`Registry.Stored` says that a tree stores records under a path: there is no file while there are no
records yet, or the file holds the document of the records. What is done to files next to the
registry leaves it alone (`Stored.gains`, `Stored.opens`), and a document that takes the registry's
name is the registry from then on (`stored_of_renames`). A look at the registry shows the records
that are stored (`Stored.stored?_eq`), and those with which it opens are stored (`Opens.stored`).
-/

namespace AccountRelay

/-! ## Texts as contents -/

/-- Reading an array of bytes from a place on gives what is behind that place. -/
theorem toList_loop_eq (bytes : ByteArray) (start : Nat) (before : List UInt8) :
    ByteArray.toList.loop bytes start before = before.reverse ++ bytes.data.toList.drop start := by
  fun_induction ByteArray.toList.loop bytes start before with
  | case1 start before inside ih =>
      have length_eq : start < bytes.data.toList.length := inside
      rw [ih, List.drop_eq_getElem_cons length_eq]
      have head : bytes.get! start = bytes.data.toList[start] := by
        simp only [ByteArray.get!, Array.getElem_toList]
        exact getElem!_pos bytes.data start inside
      simp [head]
  | case2 start before outside =>
      have length_le : bytes.data.toList.length ≤ start := Nat.not_lt.mp outside
      rw [List.drop_eq_nil_of_le length_le, List.append_nil]

/-- The bytes of a text are read back as the text. -/
theorem Bytes.text?_ofText (text : String) : Bytes.text? (Bytes.ofText text) = some text := by
  have same : (⟨text.toUTF8.toList.toArray⟩ : ByteArray) = text.toUTF8 := by
    apply ByteArray.ext
    rw [ByteArray.toList, toList_loop_eq]
    simp
  have valid : text.toUTF8.IsValidUTF8 := text.isValidUTF8
  rw [Bytes.text?, Bytes.ofText, same, String.fromUTF8?, dif_pos valid]
  rfl

namespace Registry

variable {tree after : FileTree} {path : String} {records : List WalletRecord} {number : Nat}

/-! ## Opening -/

/-- The records that a content spells, if it spells a document. -/
def spelled? (content : Bytes) : Option (List WalletRecord) :=
  (Bytes.text? content).bind Document.read

/-- What becomes of the answer to the question for the content of a registry. -/
def ofReply (path : String) (reply : Except FileFault Bytes) : FileWork Registry := do
  let text ← Dialogue.ofExcept
    ((reply.bind Files.textOf).mapError fun fault => .within (.readRegistry path) (Files.failure fault))
  match Document.read text with
  | some records => return { path, records }
  | none => .fail (.within (.parseRegistry path) (.external .json "document not accepted"))

/-- A path without directories needs none to be made. -/
theorem makeDirectory_eq_done {path : String} (nowhere : Path.directory? path = none) :
    makeDirectory path = .done () := by
  rw [makeDirectory, nowhere]

/-- Opening a registry asks whether it is there, and if so reads it. -/
theorem load_eq (path : String) : load path = Files.asking (.hasEntry path) fun (there : Bool) =>
    if there then Files.asking (.read path) (ofReply path) else .done ⟨path, []⟩ := by
  refine congrArg (Files.asking (.hasEntry path)) (funext ?_)
  rintro (_ | _)
  · rfl
  · rfl

/-- A registry that cannot be read cannot be opened. -/
theorem ofReply_error (path : String) (fault : FileFault) :
    ∃ failure, ofReply path (.error fault) = .fail failure :=
  ⟨_, rfl⟩

/-- A registry is opened with the records that its content spells, and not at all if it spells none. -/
theorem ofReply_ok (path : String) (content : Bytes) :
    (∃ records, spelled? content = some records ∧ ofReply path (.ok content) = .done ⟨path, records⟩) ∨
      spelled? content = none ∧ ∃ failure, ofReply path (.ok content) = .fail failure := by
  have bound : (Except.ok content : Except FileFault Bytes).bind Files.textOf =
      Files.textOf content := rfl
  rw [ofReply, bound, Files.textOf, spelled?]
  cases Bytes.text? content with
  | none => exact .inr ⟨rfl, _, rfl⟩
  | some text =>
      have mapped (name : FileFault → Failure) :
          (Except.ok text : Except FileFault String).mapError name = .ok text := rfl
      simp only [Option.bind_some, mapped, Dialogue.ofExcept, Dialogue.done_bind]
      cases Document.read text with
      | none => exact .inr ⟨rfl, _, rfl⟩
      | some records => exact .inl ⟨records, rfl, rfl⟩

/-- The document of records spells the records. -/
theorem spelled?_render (records : List WalletRecord) :
    spelled? (Bytes.ofText (Document.render records)) = some records := by
  rw [spelled?, Bytes.text?_ofText, Option.bind_some, Document.read_render]

/-- The registry with one more record. -/
def withRecord (registry : Registry) (record : WalletRecord) : Registry :=
  { registry with records := registry.records ++ [record] }

/-- The next salt is one more than there are records. -/
theorem nextSalt_eq (registry : Registry) :
    registry.nextSalt = UInt64.ofNat (registry.records.length + 1) :=
  (UInt64.ofNat_add _ 1).symm

/-! ## Names next to a registry -/

section Names

variable {front : List (List Char)} {name : List Char}

/-- A file that the path leads to with another extension lies beside the one it led to. -/
theorem endsIn_withExtension (ends : Path.EndsIn path front name) {extension : String}
    (plain : '/' ∉ extension.toList)
    (found : tree.find (Path.withExtension path extension) = .ok (.file number)) :
    Path.EndsIn (Path.withExtension path extension) front
      (Path.stem name ++ '.' :: extension.toList) := by
  obtain ⟨other_front, last, other_ends⟩ := FileTree.endsIn_of_find found
  rcases ends.segments_withExtension plain with named | dots
  · refine ⟨named, ?_⟩
    have same := other_ends.segments_eq.symm.trans named
    obtain ⟨-, rfl⟩ := List.append_singleton_inj.mp same
    exact other_ends.is_name
  · have same := other_ends.segments_eq.symm.trans dots
    obtain ⟨-, rfl⟩ := List.append_singleton_inj.mp same
    exact absurd rfl other_ends.is_name.2.2

/-- Paths that end in other names lead elsewhere. -/
theorem destination_ne {other : String} {last : List Char} (ends : Path.EndsIn path front name)
    (other_ends : Path.EndsIn other front last) (apart : name ≠ last) :
    Path.destination path ≠ Path.destination other := by
  intro same
  rw [ends.destination_eq, other_ends.destination_eq, List.append_singleton_inj] at same
  exact apart (String.ofList_injective same.2)

/-- The lock of a registry lies elsewhere, unless the registry itself is named like a lock. -/
theorem destination_lockPath_ne (ends : Path.EndsIn path front name)
    (no_lock : Path.extension? path ≠ some "lock".toList) :
    Path.destination (lockPath path) ≠ Path.destination path := by
  apply ends.destination_withExtension_ne (by decide) (by decide)
  exact fun same => no_lock (ends.extension?_of_eq same).2

/-- The temporary name of a registry leads elsewhere. -/
theorem destination_tempPath_ne (ends : Path.EndsIn path front name) :
    Path.destination (tempPath path) ≠ Path.destination path := by
  apply ends.destination_withExtension_ne (by decide) (by decide)
  intro same
  -- an extension has no dot in it
  exact absurd (ends.extension?_of_eq same).1 (by decide)

/-- The lock of a registry is not its temporary file. -/
theorem destination_lockPath_ne_tempPath (ends : Path.EndsIn path front name) {other : Nat}
    (lock_found : tree.find (lockPath path) = .ok (.file number))
    (temp_found : tree.find (tempPath path) = .ok (.file other)) :
    Path.destination (lockPath path) ≠ Path.destination (tempPath path) := by
  have lock_ends := endsIn_withExtension ends (by decide) lock_found
  have temp_ends := endsIn_withExtension ends (by decide) temp_found
  apply destination_ne lock_ends temp_ends
  intro same
  have tails := List.append_cancel_left same
  exact absurd tails (by decide)

end Names

/-! ## Stored records -/

/-- Whether a tree stores records under a path, in a file that is not the one under the temporary
name. Without records there may be no file. -/
structure Stored (tree : FileTree) (path : String) (records : List WalletRecord) : Prop where
  fresh : tree.IsFresh
  stands : (records = [] ∧ ∀ front name number, Path.EndsIn path front name →
      tree.entry? (Path.destination path) ≠ some (.file number)) ∨
    ∃ number, tree.find path = .ok (.file number) ∧ spelled? (tree.content number) = some records ∧
      tree.entry? (Path.destination (tempPath path)) ≠ some (.file number)

/-- A registry whose file is missing holds no records. -/
theorem stored_of_missing (fresh : tree.IsFresh)
    (missing : tree.content? (Path.destination path) = none) : Stored tree path [] := by
  refine ⟨fresh, .inl ⟨rfl, ?_⟩⟩
  intro front name number _ stands
  simp [FileTree.content?, stands] at missing

namespace Stored

/-- Records stay stored when directories are gained. -/
theorem gains (stored : Stored tree path records) (gains : tree.GainsDirectories after) :
    Stored after path records := by
  refine ⟨gains.isFresh stored.fresh, ?_⟩
  rcases stored.stands with ⟨none, missing⟩ | ⟨number, found, spelled, apart⟩
  · refine .inl ⟨none, ?_⟩
    intro front name number ends stands
    exact missing front name number ends (gains.file_iff.mp stands)
  · refine .inr ⟨number, gains.find_eq_of_find found, ?_, ?_⟩
    · rw [gains.content, spelled]
    · exact fun stands => apart (gains.file_iff.mp stands)

/-- A file that is opened elsewhere leaves the registry alone, when the registry's own content is
kept. -/
theorem opens (stored : Stored tree path records) {other : String}
    (opens : tree.OpensFile other number after)
    (elsewhere : ∀ front name, Path.EndsIn path front name →
      Path.destination other ≠ Path.destination path)
    (kept : ∀ there, tree.find path = .ok (.file there) →
      after.content there = tree.content there) : Stored after path records := by
  refine ⟨opens.isFresh stored.fresh, ?_⟩
  rcases stored.stands with ⟨none, missing⟩ | ⟨there, found, spelled, apart⟩
  · refine .inl ⟨none, ?_⟩
    intro front name there ends
    rw [opens.stands, if_neg (elsewhere front name ends).symm]
    exact missing front name there ends
  · refine .inr ⟨there, opens.find_eq_of_find found, ?_, ?_⟩
    · rw [kept there found, spelled]
    · rw [opens.stands]
      split
      · rename_i same
        have other_file := opens.ne_of_fresh stored.fresh (FileTree.find_eq_file_iff.mp found).2.1
          (same ▸ apart)
        simpa using Ne.symm other_file
      · exact apart

/-- Records stay stored, whatever becomes of locks. -/
theorem relocked (stored : Stored tree path records) (locked : List Nat) :
    Stored { tree with locked } path records := by
  refine ⟨stored.fresh, ?_⟩
  rcases stored.stands with missing | ⟨number, found, spelled, apart⟩
  · exact .inl missing
  · exact .inr ⟨number, (tree.find_relocked locked path).trans found, spelled, apart⟩

/-- A registry that is opened without a file has no records. -/
theorem eq_nil_of_hasEntry (stored : Stored tree path records)
    (absent : tree.hasEntry path = false) : records = [] := by
  rcases stored.stands with ⟨none, -⟩ | ⟨number, found, -⟩
  · exact none
  · rw [FileTree.hasEntry, found] at absent
    cases absent

/-- What the path of a registry leads to spells the stored records. -/
theorem spelled?_of_find (stored : Stored tree path records)
    (found : tree.find path = .ok (.file number)) :
    spelled? (tree.content number) = some records := by
  rcases stored.stands with ⟨-, missing⟩ | ⟨there, also_found, spelled, -⟩
  · obtain ⟨front, name, ends⟩ := FileTree.endsIn_of_find found
    exact absurd (FileTree.find_eq_file_iff.mp found).2.1 (missing front name number ends)
  · cases also_found.symm.trans found
    exact spelled

/-- The file of a registry is not the one under the temporary name. -/
theorem apart_of_find (stored : Stored tree path records)
    (found : tree.find path = .ok (.file number)) :
    tree.entry? (Path.destination (tempPath path)) ≠ some (.file number) := by
  rcases stored.stands with ⟨-, missing⟩ | ⟨there, also_found, -, apart⟩
  · obtain ⟨front, name, ends⟩ := FileTree.endsIn_of_find found
    exact absurd (FileTree.find_eq_file_iff.mp found).2.1 (missing front name number ends)
  · cases also_found.symm.trans found
    exact apart

/-- What is read from a registry spells the stored records. -/
theorem spelled?_of_read (stored : Stored tree path records) {content : Bytes}
    (reads : tree.read path = .ok content) : spelled? content = some records := by
  obtain ⟨number, found, rfl⟩ := FileTree.read_eq_ok_iff.mp reads
  exact stored.spelled?_of_find found

/-- Whatever is written under the temporary name, the registry is left alone. -/
theorem opens_tempPath (stored : Stored tree path records)
    (opens : tree.OpensFile (tempPath path) number after) : Stored after path records := by
  apply stored.opens opens
  · intro front name ends
    exact destination_tempPath_ne ends
  · intro there found
    exact opens.content there (opens.ne_of_fresh stored.fresh
      (FileTree.find_eq_file_iff.mp found).2.1 (stored.apart_of_find found))

end Stored

/-- A document that takes the name of a registry is the registry. -/
theorem stored_of_renames (fresh : tree.IsFresh)
    (renames : tree.RenamesFile (tempPath path) path number after)
    (holds : tree.content number = Bytes.ofText (Document.render records)) :
    Stored after path records := by
  refine ⟨renames.isFresh fresh, .inr ⟨number, renames.find_target, ?_, ?_⟩⟩
  · rw [renames.content, holds, spelled?_render]
  · obtain ⟨front, name, ends⟩ := FileTree.endsIn_of_find renames.find_target
    rw [renames.stands, if_neg (destination_tempPath_ne ends), if_pos rfl]
    exact nofun

/-- The records under a path, if there is no file or one that can be read. -/
def stored? (tree : FileTree) (path : String) : Option (List WalletRecord) :=
  match tree.find path with
  | .ok (.file number) => spelled? (tree.content number)
  | _ => some []

/-- The stored records can be told from the tree. -/
theorem Stored.stored?_eq (stored : Stored tree path records) :
    stored? tree path = some records := by
  unfold stored?
  split
  · rename_i number found
    exact stored.spelled?_of_find found
  · rename_i no_file
    rcases stored.stands with ⟨rfl, -⟩ | ⟨number, found, -⟩
    · rfl
    · exact absurd found (no_file number)

/-! ## Accepted registries -/

/-- Whether the registry under a path opens with records. One that is taken for missing is not there:
the path may lead through a directory that has yet to be made to a file that is there already. -/
structure Opens (tree : FileTree) (path : String) (records : List WalletRecord) : Prop where
  accepted : (tree.run (load path)).1 = .ok ⟨path, records⟩
  in_sight : tree.hasEntry path = false → tree.content? (Path.destination path) = none

/-- A registry that is missing is opened without records. -/
theorem run_load_of_missing (missing : tree.hasEntry path = false) :
    tree.run (load path) = (.ok ⟨path, []⟩, tree) := by
  rw [load_eq]
  change tree.run (if tree.hasEntry path then Files.asking (.read path) (ofReply path)
    else .done ⟨path, []⟩) = _
  rw [missing]
  rfl

/-- A registry that is there is opened as it is read. -/
theorem run_load_of_there (there : tree.hasEntry path = true) :
    tree.run (load path) = tree.run (ofReply path (tree.read path)) := by
  rw [load_eq]
  change tree.run (if tree.hasEntry path then Files.asking (.read path) (ofReply path)
    else .done ⟨path, []⟩) = _
  rw [there]
  rfl

/-- A registry that can be read is opened with the records that are spelled in it. -/
theorem run_load_of_read {content : Bytes} (reads : tree.read path = .ok content)
    (spelled : spelled? content = some records) :
    tree.run (load path) = (.ok ⟨path, records⟩, tree) := by
  have there : tree.hasEntry path = true := by
    obtain ⟨number, found, -⟩ := FileTree.read_eq_ok_iff.mp reads
    rw [FileTree.hasEntry, found]
    rfl
  rw [run_load_of_there there, reads]
  rcases ofReply_ok path content with ⟨own, also, opened⟩ | ⟨none, -⟩
  · cases spelled.symm.trans also
    rw [opened]
    rfl
  · cases spelled.symm.trans none

/-- A registry that opens in an orderly tree is stored there. -/
theorem Opens.stored (opens : Opens tree path records) (orderly : tree.IsOrderly) :
    Stored tree path records := by
  obtain ⟨accepted, in_sight⟩ := opens
  cases there : tree.hasEntry path with
  | false =>
      rw [run_load_of_missing there] at accepted
      cases accepted
      exact stored_of_missing orderly.fresh (in_sight there)
  | true =>
      rw [run_load_of_there there] at accepted
      cases reads : tree.read path with
      | error fault =>
          obtain ⟨failure, failed⟩ := ofReply_error path fault
          rw [reads, failed] at accepted
          cases accepted
      | ok content =>
          obtain ⟨number, found, rfl⟩ := FileTree.read_eq_ok_iff.mp reads
          rw [reads] at accepted
          rcases ofReply_ok path (tree.content number) with
            ⟨own, spelled, opened⟩ | ⟨-, failure, failed⟩
          · rw [opened] at accepted
            cases accepted
            refine ⟨orderly.fresh, .inr ⟨number, found, spelled, ?_⟩⟩
            obtain ⟨front, name, ends⟩ := FileTree.endsIn_of_find found
            intro stands
            exact destination_tempPath_ne ends (orderly.unlinked _ _ _ stands
              (FileTree.find_eq_file_iff.mp found).2.1)
          · rw [failed] at accepted
            cases accepted

end Registry

end AccountRelay
