import AccountRelay.Proofs.Registry.Saving

/-! # Opening what was saved

A registry that has been saved lies under its path as the document of its records
(`Registry.leaves_save_reads`), and that is read back. So a registry opens as it was when it was last
recorded in with success (`Registry.reopens`).
-/

namespace AccountRelay

/-- A file renamed to a target is the one read there. -/
theorem FileTree.RenamesFile.read_target {tree after : FileTree} {source target : String} {number : Nat}
    (renames : tree.RenamesFile source target number after) :
    after.read target = .ok (tree.content number) := by
  exact read_eq_ok_iff.mpr ⟨number, renames.find_target, (renames.content number).symm⟩

namespace Registry

variable {tree later : FileTree} {registry : Registry}

/-- A loaded registry is the one at the path it was loaded from. -/
theorem path_eq_of_load {path : String} {exchanges : List (Exchange Files)}
    (ends : (load path).Ends exchanges (.ok registry)) :
    registry.path = path := by
  rw [load_eq] at ends
  obtain ⟨there, rest, -, ends⟩ := ends
  cases (there : Bool) with
  | false =>
      obtain ⟨-, ⟨⟩⟩ := ends
      rfl
  | true =>
      obtain ⟨reply, rest, -, ends⟩ := ends
      cases (reply : Except FileFault Bytes) with
      | error fault =>
          obtain ⟨failure, failed⟩ := ofReply_error path fault
          rw [failed] at ends
          cases ends.2
      | ok content =>
          rcases ofReply_ok path content with ⟨records, -, opened⟩ | ⟨-, failure, failed⟩
          · rw [opened] at ends
            cases ends.2
            rfl
          · rw [failed] at ends
            cases ends.2

/-- A file that holds the printed form of some records is opened as these records, and stays as it is.
-/
theorem run_load_of_render {path : String} {records : List WalletRecord}
    (reads : tree.read path = .ok (Bytes.ofText (Document.render records))) :
    tree.run (load path) = (.ok ⟨path, records⟩, tree) :=
  run_load_of_read reads (spelled?_render records)

/-- Whatever the tree was before, a registry that is saved lies under its path as a whole. -/
theorem leaves_save_reads (registry : Registry) :
    registry.save.Leaves (fun outcome after => outcome = .ok () →
      after.read registry.path = .ok (Bytes.ofText (Document.render registry.records))) tree := by
  apply (leaves_makeDirectory tree registry.path).bind
  · intro _ made _ (written : Except FileFault Unit) after answers
    cases written with
    | error fault => exact nofun
    | ok =>
        rcases FileTree.answers_write answers with ⟨-, _, ⟨⟩⟩ | ⟨number, opens, -, holds⟩
        intro (renamed : Except FileFault Unit) last answers
        rcases FileTree.answers_rename answers with ⟨-, _, rfl⟩ | ⟨rfl, other, renames⟩
        · exact nofun
        · cases opens.find_eq.symm.trans renames.found
          intro _
          rw [renames.read_target, holds rfl]
  · exact fun _ _ _ => nofun

/-- A record that was added with success lies under the path, behind all others. -/
theorem leaves_create_reads (registry : Registry) (record : WalletRecord) :
    (registry.create record).Leaves (fun outcome after => ∀ change, outcome = .ok change →
      change.outcome = .ok () →
        change.registry = registry.withRecord record ∧
        after.read registry.path = .ok (Bytes.ofText (Document.render change.registry.records)))
      tree := by
  unfold create
  split
  · rintro _ ⟨⟩ ⟨⟩
  · have saves : ((registry.withRecord record).save.attempt :
        FileWork (Except Failure Unit)).Leaves (fun outcome after => outcome = .ok (.ok ()) →
          after.read registry.path =
            .ok (Bytes.ofText (Document.render (registry.withRecord record).records))) tree := by
      apply Dialogue.Leaves.attempt
      apply (leaves_save_reads (registry.withRecord record)).mono
      intro outcome after reads success
      exact reads (Except.ok.inj success)
    apply saves.bind
    · rintro outcome after reads _ ⟨⟩ success
      exact ⟨rfl, reads (congrArg _ success)⟩
    · exact fun _ _ _ _ => nofun

/-- A record that is created is in memory and in the file that is opened next. -/
theorem run_load_of_create {record : WalletRecord} {after : Registry}
    (creates : tree.run (registry.create record) = (.ok ⟨after, .ok ()⟩, later)) :
    after = registry.withRecord record ∧
      later.run (load registry.path) = (.ok after, later) := by
  obtain ⟨exchanges, ends, follows⟩ := tree.exists_follows_run (registry.create record)
  rw [creates] at ends follows
  obtain ⟨same, reads⟩ := (leaves_create_reads registry record).of_ends ends follows _ rfl rfl
  refine ⟨same, ?_⟩
  rw [run_load_of_render reads]
  cases same
  rfl

/-- A registry that is saved is the one opened next. -/
theorem run_load_of_save (saves : tree.run registry.save = (.ok (), later)) :
    later.run (load registry.path) = (.ok registry, later) := by
  obtain ⟨exchanges, ends, follows⟩ := tree.exists_follows_run registry.save
  rw [saves] at ends follows
  exact run_load_of_render ((leaves_save_reads registry).of_ends ends follows rfl)

/-- **A registry opens as it was saved.** Whatever records the document of a registry was made of, a
path under which it lies opens with these records in their order, and this is the document that is
saved. So after a record has been added with success, opening the path anew shows the registry as it
is in memory. -/
theorem reopens :
    (∀ tree path records, FileTree.read tree path = .ok (Bytes.ofText (Document.render records)) →
      tree.run (load path) = (.ok ⟨path, records⟩, tree)) ∧
    (∀ tree registry later, FileTree.run tree (save registry) = (.ok (), later) →
      later.run (load registry.path) = (.ok registry, later)) ∧
    ∀ tree registry record after later,
      FileTree.run tree (create registry record) = (.ok ⟨after, .ok ()⟩, later) →
        later.run (load registry.path) = (.ok after, later) :=
  ⟨fun _ _ _ => run_load_of_render, fun _ _ _ => run_load_of_save,
    fun _ _ _ _ _ creates => (run_load_of_create creates).2⟩

/-- A wallet with the greatest of all counters and no operation. -/
def farRecord : WalletRecord where
  address := .filled 20 0xab
  salt := 0xFFFFFFFFFFFFFFFF
  createdAt := 0
  operationHash := none

/-- A registry is saved without wallets, opens under either of two paths to it, gets a wallet, and opens
with that. -/
theorem reopens_with_wallet : ∃ empty full,
    ({} : FileTree).run (save ⟨"wallets.json", []⟩) = (.ok (), empty) ∧
    empty.run (load "wallets.json") = (.ok ⟨"wallets.json", []⟩, empty) ∧
    empty.read "./wallets.json" = .ok (Bytes.ofText (Document.render [])) ∧
    empty.run (load "./wallets.json") = (.ok ⟨"./wallets.json", []⟩, empty) ∧
    empty.run (create ⟨"wallets.json", []⟩ farRecord) =
      (.ok ⟨⟨"wallets.json", [farRecord]⟩, .ok ()⟩, full) ∧
    full.run (load "wallets.json") = (.ok ⟨"wallets.json", [farRecord]⟩, full) := by
  have runs : ∃ empty, ({} : FileTree).run (save ⟨"wallets.json", []⟩) = (.ok (), empty) ∧
      empty.read "./wallets.json" = .ok (Bytes.ofText (Document.render [])) ∧
      ∃ full, empty.run (create ⟨"wallets.json", []⟩ farRecord) =
        (.ok ⟨⟨"wallets.json", [farRecord]⟩, .ok ()⟩, full) :=
    ⟨_, rfl, rfl, _, rfl⟩
  obtain ⟨empty, saves, reads, full, creates⟩ := runs
  obtain ⟨opens, saved, recorded⟩ := reopens
  exact ⟨empty, full, saves, saved {} ⟨"wallets.json", []⟩ empty saves, reads,
    opens empty "./wallets.json" [] reads, creates,
    recorded empty ⟨"wallets.json", []⟩ farRecord _ full creates⟩

end Registry

end AccountRelay
