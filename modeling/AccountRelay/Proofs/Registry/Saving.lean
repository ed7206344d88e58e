import AccountRelay.Proofs.Dialogue.Histories
import AccountRelay.Proofs.Registry.Stored
import AccountRelay.Proofs.Storage.Faults

/-! # Opening and saving a registry in a world of faults

Whichever of its questions fail, opening a registry leaves it alone and gives no other records than
those that are stored (`Registry.leaves_load`), and saving it replaces the document as a whole or
leaves it as it is (`Registry.leaves_save`); so a record that is added is there when that succeeds, and
else nothing has changed (`Registry.leaves_create`). Where nothing fails, a wallet is recorded in two
questions (`Registry.ends_create_of_unknown`).
-/

namespace AccountRelay.Registry

variable {tree : FileTree} {path : String} {records : List WalletRecord}

/-- Loading leaves the tree alone, and gives only the records that are stored there. -/
theorem leaves_load (stored : Stored tree path records) :
    (load path).Leaves (fun outcome after => after = tree ∧
      ∀ registry, outcome = .ok registry → registry = ⟨path, records⟩) tree := by
  rw [load_eq]
  intro (there : Bool) after answers
  obtain ⟨rfl, rfl⟩ := FileTree.answers_hasEntry answers
  cases there : after.hasEntry path with
  | false =>
      rw [stored.eq_nil_of_hasEntry there]
      refine ⟨rfl, ?_⟩
      rintro registry ⟨⟩
      rfl
  | true =>
      intro (reply : Except FileFault Bytes) later answers
      obtain ⟨rfl, reads⟩ := FileTree.answers_read answers
      cases reply with
      | error fault =>
          obtain ⟨failure, failed⟩ := ofReply_error path fault
          rw [failed]
          exact ⟨rfl, nofun⟩
      | ok content =>
          have own := stored.spelled?_of_read (reads content rfl)
          rcases ofReply_ok path content with ⟨others, spelled, opened⟩ | ⟨-, failure, failed⟩
          · cases own.symm.trans spelled
            rw [opened]
            refine ⟨rfl, ?_⟩
            rintro registry ⟨⟩
            rfl
          · rw [failed]
            exact ⟨rfl, nofun⟩

/-- Making a directory, whether or not that succeeds, only gains directories. -/
theorem leaves_makeDirectory (tree : FileTree) (path : String) :
    (makeDirectory path).Leaves (fun _ after => tree.GainsDirectories after) tree := by
  unfold makeDirectory
  split
  · intro reply after answers
    exact .ofExcept (FileTree.answers_createDirectories answers)
  · exact .refl tree

/-- A registry that is saved is replaced as a whole, or stays as it is. -/
theorem leaves_save (stored : Stored tree path records) (longer : List WalletRecord) :
    (save ⟨path, longer⟩).Leaves (fun outcome after => match outcome with
      | .ok _ => Stored after path longer
      | .error _ => Stored after path records) tree := by
  apply (leaves_makeDirectory tree path).bind
  · intro _ made gains (reply : Except FileFault Unit) written answers
    have stored := stored.gains gains
    rcases FileTree.answers_write answers with ⟨rfl, fault, rfl⟩ | ⟨number, opens, -, holds⟩
    · exact stored
    · have stored := stored.opens_tempPath opens
      cases reply with
      | error fault => exact stored
      | ok =>
          intro (reply : Except FileFault Unit) renamed answers
          rcases FileTree.answers_rename answers with ⟨rfl, fault, rfl⟩ | ⟨rfl, other, renames⟩
          · exact stored
          · cases opens.find_eq.symm.trans renames.found
            exact stored_of_renames stored.fresh renames (holds rfl)
  · exact fun _ _ => stored.gains

/-- A creation either stores the records with the new one behind, or leaves the old ones stored. -/
theorem leaves_create (stored : Stored tree path records) (record : WalletRecord) :
    (create ⟨path, records⟩ record).Leaves (fun outcome after => ∃ change, outcome = .ok change ∧
      match change.outcome with
      | .ok _ => Stored after path (records ++ [record])
      | .error _ => Stored after path records) tree := by
  unfold create
  split
  · exact ⟨_, rfl, stored⟩
  · have saves : ((save ⟨path, records ++ [record]⟩).attempt :
        FileWork (Except Failure Unit)).Leaves (fun outcome after => ∃ attempted,
          outcome = .ok attempted ∧ match attempted with
            | .ok _ => Stored after path (records ++ [record])
            | .error _ => Stored after path records) tree := by
      apply Dialogue.Leaves.attempt
      apply (leaves_save stored _).mono
      intro attempted after left
      exact ⟨attempted, rfl, left⟩
    apply saves.bind
    · rintro attempted after ⟨_, ⟨⟩, left⟩
      exact ⟨_, rfl, left⟩
    · rintro failure after ⟨_, impossible, -⟩
      cases impossible

/-! ## Where nothing fails -/

/-- A registry that is not there is opened without records. -/
theorem ends_load_of_missing (path : String) :
    (load path).Ends [⟨.hasEntry path, false⟩] (.ok ⟨path, []⟩) :=
  ⟨false, [], rfl, rfl, rfl⟩

/-- A document that is written next to a registry and takes its name. -/
def replacing (registry : Registry) : List (Exchange Files) :=
  [⟨.write (tempPath registry.path) (Document.render registry.records),
      (.ok () : Except FileFault Unit)⟩,
    ⟨.rename (tempPath registry.path) registry.path, (.ok () : Except FileFault Unit)⟩]

/-- A registry whose path lies in no directory is saved by a write beside the file and a rename. -/
theorem ends_save {registry : Registry} (nowhere : Path.directory? registry.path = none) :
    registry.save.Ends (replacing registry) (.ok ()) := by
  rw [save, makeDirectory_eq_done nowhere]
  exact ⟨_, _, rfl, _, _, rfl, rfl, rfl⟩

/-- Where the write and the rename can be done, a save leaves the tree they lead to. -/
theorem follows_replacing {registry : Registry} {written after : FileTree}
    (writes : tree.write (tempPath registry.path) (Bytes.ofText (Document.render registry.records)) =
      .ok written)
    (renames : written.rename (tempPath registry.path) registry.path = .ok after) :
    tree.Follows (replacing registry) after :=
  ⟨_, .inl (FileTree.answer_write writes), _, .inl (FileTree.answer_rename renames), rfl⟩

/-- A wallet not known before is recorded by saving the registry with it. -/
theorem ends_create_of_unknown {registry : Registry} {record : WalletRecord}
    (unknown : registry.get? record.address = none) (nowhere : Path.directory? registry.path = none) :
    (registry.create record).Ends (replacing (registry.withRecord record))
      (.ok ⟨registry.withRecord record, .ok ()⟩) := by
  have creates : registry.create record = (registry.withRecord record).save.attempt >>= fun outcome =>
      .done ⟨registry.withRecord record, outcome⟩ := if_neg (unknown ▸ Bool.false_ne_true)
  have saves : (registry.withRecord record).save.Ends _ (.ok ()) := ends_save nowhere
  rw [creates]
  exact saves.of_attempt.of_bind ⟨rfl, rfl⟩

end AccountRelay.Registry
