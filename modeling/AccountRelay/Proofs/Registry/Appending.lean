import AccountRelay.Proofs.Dialogue.Histories
import AccountRelay.Proofs.Registry.Reopening
import AccountRelay.Proofs.Storage.Interruptions
import Mathlib.Data.List.Nodup
import Mathlib.Logic.Relation

/-! # Recording one wallet after the other

However its questions are answered, an attempt to record a wallet adds it behind all others or leaves
the registry alone (`Registry.ends_create`). So the records with which a registry was opened stay, and
its addresses stay distinct, in any sequence of attempts (`Registry.Grows.of_reached`). Wherever an
attempt is cut short, the registry's file is as it was or the whole new document
(`Registry.throughout_create`).
-/

namespace AccountRelay.Registry

variable {tree : FileTree} {registry after : Registry} {record : WalletRecord}
  {exchanges : List (Exchange Files)}

/-! ## Attempts -/

/-- Whether a wallet is recorded. -/
def Has (registry : Registry) (wallet : Address) : Prop :=
  ∃ record ∈ registry.records, record.address = wallet

/-- A wallet is recorded when a record of it is found. -/
theorem has_iff_isSome_get? {wallet : Address} : registry.Has wallet ↔ (registry.get? wallet).isSome := by
  simp [Has, get?]

/-- An attempt to record a wallet asks nothing if the wallet is recorded, and has added the record in
memory otherwise. -/
theorem ends_create {outcome : Except Failure Change}
    (ends : (registry.create record).Ends exchanges outcome) : ∃ change, outcome = .ok change ∧
      (registry.Has record.address ∧ exchanges = [] ∧
          change = ⟨registry, .error (.alreadyRegistered record.address)⟩ ∨
        ¬ registry.Has record.address ∧ change.registry = registry.withRecord record) := by
  rw [has_iff_isSome_get?]
  unfold create at ends
  split at ends
  · rename_i known
    obtain ⟨rfl, rfl⟩ := ends
    exact ⟨_, rfl, .inl ⟨known, rfl, rfl⟩⟩
  · rename_i unknown
    rcases ends.bind with ⟨error, -, failed⟩ | ⟨first, rest, saved, -, -, -, rfl⟩
    · obtain ⟨_, impossible, -⟩ := failed.attempt
      cases impossible
    · exact ⟨_, rfl, .inr ⟨unknown, rfl⟩⟩

/-- A wallet that is not recorded yet is added to the list, and the list is saved. -/
theorem create_eq (unknown : ¬ registry.Has record.address) : registry.create record =
    (registry.withRecord record).save.attempt >>= fun outcome =>
      .done ⟨registry.withRecord record, outcome⟩ :=
  if_neg fun known => unknown (has_iff_isSome_get?.mpr known)

/-! ## Attempts that are cut short -/

/-- Whether what lies under the path of a registry is as it was in an earlier tree, or the whole
document of some records. -/
def IsWhole (tree : FileTree) (path : String) (records : List WalletRecord) (later : FileTree) : Prop :=
  tree.Spares path later ∨ later.read path = .ok (Bytes.ofText (Document.render records))

/-- All through the making of a registry's directory a condition holds that gained directories do not
break. -/
theorem throughout_makeDirectory {holds : FileTree → Prop}
    (held : ∀ after, tree.GainsDirectories after → holds after) (path : String) :
    (makeDirectory path).Throughout holds tree := by
  unfold makeDirectory
  split
  · refine ⟨held tree (.refl tree), ?_⟩
    intro reply after answers
    exact .ofExcept (held after (FileTree.answers_createDirectories answers))
  · exact held tree (.refl tree)

/-- All through the saving of a registry its document is a whole one, the old or the new. -/
theorem throughout_save (orderly : tree.IsOrderly) (registry : Registry) :
    registry.save.Throughout (IsWhole tree registry.path registry.records) tree := by
  apply (throughout_makeDirectory (fun _ gains => .inl (.of_gains gains)) registry.path).bind
    (leaves_makeDirectory tree registry.path)
  intro _ made gains
  refine ⟨.inl (.of_gains gains), ?_⟩
  intro (written : Except FileFault Unit) after answers
  rcases FileTree.answers_write answers with ⟨rfl, fault, rfl⟩ | ⟨number, opens, -, holds⟩
  · exact .inl (.of_gains gains)
  · have spares : tree.Spares registry.path after := .after_gains gains
      (.of_opens opens (gains.isOrderly orderly) fun _ _ => destination_tempPath_ne)
    cases written with
    | error fault => exact .inl spares
    | ok =>
        refine ⟨.inl spares, ?_⟩
        intro (renamed : Except FileFault Unit) last answers
        rcases FileTree.answers_rename answers with ⟨rfl, fault, rfl⟩ | ⟨rfl, other, renames⟩
        · exact .inl spares
        · cases opens.find_eq.symm.trans renames.found
          refine .inr ?_
          rw [renames.read_target, holds rfl]

/-- All through the creation of a record the document is a whole one, the old or the new. -/
theorem throughout_create (orderly : tree.IsOrderly) (registry : Registry) (record : WalletRecord) :
    (registry.create record).Throughout
      (IsWhole tree registry.path (registry.withRecord record).records) tree := by
  unfold create
  split
  · exact .inl (.refl tree registry.path)
  · exact (throughout_save orderly (registry.withRecord record)).attempt.bind_done

/-! ## Sequences of attempts -/

/-- What an attempt to record a wallet makes of a registry, however its questions are answered. -/
def Creates (registry after : Registry) : Prop :=
  ∃ record exchanges change, (registry.create record).Ends exchanges (.ok change) ∧
    change.registry = after

/-- Whether no two records are of one wallet. -/
def IsDistinct (registry : Registry) : Prop :=
  (registry.records.map (·.address)).Nodup

/-- Addresses stay distinct when a wallet is added that was not recorded. -/
theorem IsDistinct.withRecord (distinct : registry.IsDistinct) (unknown : ¬ registry.Has record.address) :
    (registry.withRecord record).IsDistinct := by
  have apart : record.address ∉ registry.records.map (·.address) :=
    fun there => unknown (List.mem_map.mp there)
  rw [IsDistinct, Registry.withRecord, List.map_append]
  exact List.nodup_append_comm.mp (List.nodup_cons.mpr ⟨apart, distinct⟩)

/-- The record of a wallet is the only one with its address. -/
theorem IsDistinct.get?_eq_some_iff (distinct : registry.IsDistinct) {wallet : Address} :
    registry.get? wallet = some record ↔
      ∀ other, other ∈ registry.records ∧ other.address = wallet ↔ other = record := by
  have named {found : WalletRecord} (gets : registry.get? wallet = some found) :
      found ∈ registry.records ∧ found.address = wallet :=
    ⟨List.mem_of_find?_eq_some gets, by simpa using List.find?_some gets⟩
  constructor
  · intro gets other
    obtain ⟨there, own⟩ := named gets
    constructor
    · rintro ⟨also, same⟩
      exact List.inj_on_of_nodup_map distinct also there (same.trans own.symm)
    · rintro rfl
      exact ⟨there, own⟩
  · intro only
    have known : registry.Has wallet := ⟨record, (only record).mpr rfl⟩
    obtain ⟨first, gets⟩ := Option.isSome_iff_exists.mp (has_iff_isSome_get?.mp known)
    rw [gets, (only first).mp (named gets)]

/-- What becomes of a registry in the course of attempts. -/
structure Grows (registry after : Registry) : Prop where
  path_eq : after.path = registry.path
  records_prefix : registry.records <+: after.records
  isDistinct : registry.IsDistinct → after.IsDistinct

namespace Grows

/-- A registry has grown by nothing. -/
theorem refl (registry : Registry) : registry.Grows registry :=
  ⟨rfl, List.prefix_rfl, id⟩

/-- A registry that has grown and grown again has grown. -/
theorem trans {later : Registry} (first : registry.Grows after) (second : after.Grows later) :
    registry.Grows later :=
  ⟨second.path_eq.trans first.path_eq, first.records_prefix.trans second.records_prefix,
    second.isDistinct ∘ first.isDistinct⟩

/-- A registry grows by each creation. -/
theorem of_creates (creates : registry.Creates after) : registry.Grows after := by
  obtain ⟨record, exchanges, change, ends, rfl⟩ := creates
  obtain ⟨_, ⟨⟩, ⟨-, -, rfl⟩ | ⟨unknown, same⟩⟩ := ends_create ends
  · exact refl registry
  · rw [same]
    exact ⟨rfl, List.prefix_append _ _, fun distinct => distinct.withRecord unknown⟩

/-- A registry grows by any number of creations. -/
theorem of_reached (reached : Relation.ReflTransGen Creates registry after) :
    registry.Grows after := by
  induction reached with
  | refl => exact refl registry
  | tail _ creates ih => exact ih.trans (of_creates creates)

end Grows

/-- What an attempt to record a wallet in a registry comes to. -/
structure Attempts (registry : Registry) (record : WalletRecord) (exchanges : List (Exchange Files))
    (change : Change) : Prop where
  appended : change.outcome = .ok () →
    change.registry = registry.withRecord record ∧ ¬ registry.Has record.address
  refused : registry.Has record.address →
    exchanges = [] ∧ change = ⟨registry, .error (.alreadyRegistered record.address)⟩
  whole : ∀ tree executed later, FileTree.IsOrderly tree → executed <+: exchanges →
    tree.Follows executed later →
      IsWhole tree registry.path (registry.withRecord record).records later

/-- A creation that ends has ended with a change, in one of the ways in which a record may be added or
not. -/
theorem attempts_of_ends {outcome : Except Failure Change}
    (ends : (registry.create record).Ends exchanges outcome) :
    ∃ change, outcome = .ok change ∧ registry.Attempts record exchanges change := by
  obtain ⟨change, rfl, cases_of⟩ := ends_create ends
  refine ⟨change, rfl, ?_, ?_, ?_⟩
  · intro success
    rcases cases_of with ⟨-, -, rfl⟩ | ⟨unknown, same⟩
    · cases success
    · exact ⟨same, unknown⟩
  · intro known
    rcases cases_of with ⟨-, silent, refused⟩ | ⟨unknown, -⟩
    · exact ⟨silent, refused⟩
    · exact absurd known unknown
  · intro tree executed later orderly begins follows
    have throughout := throughout_create orderly registry record
    exact throughout.of_prefix ends begins follows

/-- **A registry only grows, and its file is never in between.** Whatever registry was opened and
whatever attempts were made to record wallets in it, with any answers to their questions: its records
begin with those it was opened with, and if these were of different wallets, so are all, and the record
of a wallet is the only one with its address. A further attempt that succeeds adds its record behind
all others, of a wallet that was not there; one for a wallet that is there is refused and asks
nothing. And in a tree where no file has a second name, after each of its questions, whichever fails or
is the last, the registry's file is as it was, or the whole document with the new record. -/
theorem append_only {path : String} {opening : List (Exchange Files)} {opened registry : Registry}
    (opens : (load path).Ends opening (.ok opened))
    (reached : Relation.ReflTransGen Creates opened registry) :
    registry.path = path ∧ opened.records <+: registry.records ∧
      (opened.IsDistinct → registry.IsDistinct ∧
        ∀ wallet record, registry.get? wallet = some record ↔
          ∀ other, other ∈ registry.records ∧ other.address = wallet ↔ other = record) ∧
      ∀ record exchanges outcome, (registry.create record).Ends exchanges outcome →
        ∃ change, outcome = .ok change ∧ registry.Attempts record exchanges change := by
  have grows := Grows.of_reached reached
  refine ⟨grows.path_eq.trans (path_eq_of_load opens), grows.records_prefix, ?_, ?_⟩
  · intro distinct
    have kept := grows.isDistinct distinct
    exact ⟨kept, fun _ _ => kept.get?_eq_some_iff⟩
  · exact fun _ _ _ => attempts_of_ends

/-- Another wallet. -/
def nearRecord : WalletRecord where
  address := .filled 20 0xcd
  salt := 2
  createdAt := 1700000000
  operationHash := some (.filled 32 0xcd)

/-- An attempt whose temporary file is opened, but not written. -/
def tearing (registry : Registry) : List (Exchange Files) :=
  [⟨.write (tempPath registry.path) (Document.render registry.records),
    (.error (.other "No space left on device") : Except FileFault Unit)⟩]

/-- A creation may fail half way through writing, with the longer list in memory. -/
theorem ends_create_tearing (registry : Registry) (record : WalletRecord)
    (unknown : ¬ registry.Has record.address)
    (nowhere : Path.directory? registry.path = none) :
    (registry.create record).Ends (tearing (registry.withRecord record))
      (.ok ⟨registry.withRecord record, .error (.within (.writeTempRegistry (tempPath registry.path))
        (Files.failure (.other "No space left on device")))⟩) := by
  have saves : (registry.withRecord record).save.Ends (tearing (registry.withRecord record))
      (.error (.within (.writeTempRegistry (tempPath registry.path))
        (Files.failure (.other "No space left on device")))) := by
    rw [save, Registry.withRecord, makeDirectory_eq_done nowhere]
    exact ⟨_, _, rfl, rfl, rfl⟩
  rw [create_eq unknown]
  exact saves.of_attempt.of_bind ⟨rfl, rfl⟩

/-- A tree with nothing but an empty temporary file. -/
def tornTree : FileTree where
  entries := [(["wallets.json.tmp"], .file 0)]
  contents := [(0, [])]
  made := 1

/-- A disk that fills up may leave a torn document under the temporary name. -/
theorem follows_tearing (records : List WalletRecord) :
    FileTree.Follows {} (tearing ⟨"wallets.json", records⟩) tornTree := by
  have opened : FileTree.openFile {} (tempPath "wallets.json") = .ok (0, tornTree) := rfl
  exact ⟨_, .inr (.torn _ _ opened []), rfl⟩

/-- A registry is opened where there is none and gets a wallet. A second attempt with the wallet asks
nothing, and one with another wallet is cut short with an empty temporary file beside the registry. -/
theorem append_only_with_wallet : ∃ opening recording,
    (load "wallets.json").Ends opening (.ok ⟨"wallets.json", []⟩) ∧
    (create ⟨"wallets.json", []⟩ farRecord).Ends recording
      (.ok ⟨⟨"wallets.json", [farRecord]⟩, .ok ()⟩) ∧
    get? ⟨"wallets.json", [farRecord]⟩ farRecord.address = some farRecord ∧
    (∀ exchanges outcome, (create ⟨"wallets.json", [farRecord]⟩ farRecord).Ends exchanges outcome →
      exchanges = []) ∧
    IsWhole {} "wallets.json" [farRecord, nearRecord] tornTree := by
  have opens : (load "wallets.json").Ends [⟨.hasEntry "wallets.json", false⟩]
      (.ok ⟨"wallets.json", []⟩) := ⟨false, [], rfl, rfl, rfl⟩
  obtain ⟨recording, creates, -⟩ :=
    FileTree.exists_follows_run {} (create ⟨"wallets.json", []⟩ farRecord)
  have succeeds : (FileTree.run {} (create ⟨"wallets.json", []⟩ farRecord)).1 =
      .ok ⟨⟨"wallets.json", [farRecord]⟩, .ok ()⟩ := rfl
  rw [succeeds] at creates
  obtain ⟨-, -, distinct, attempts⟩ :=
    append_only opens (.single ⟨farRecord, recording, _, creates, rfl⟩)
  have apart : farRecord.address ≠ nearRecord.address := by decide
  have unknown : ¬ (Registry.mk "wallets.json" [farRecord]).Has nearRecord.address := by
    rintro ⟨other, there, same⟩
    rw [List.mem_singleton.mp there] at same
    exact apart same
  have tears := ends_create_tearing ⟨"wallets.json", [farRecord]⟩ nearRecord unknown (by decide)
  refine ⟨_, recording, opens, creates, ?_, ?_, ?_⟩
  · apply ((distinct List.nodup_nil).2 _ _).mpr
    intro other
    constructor
    · rintro ⟨there, -⟩
      exact List.mem_singleton.mp there
    · rintro rfl
      exact ⟨List.mem_singleton_self _, rfl⟩
  · intro exchanges outcome ends
    obtain ⟨change, -, attempt⟩ := attempts farRecord exchanges outcome ends
    exact (attempt.refused ⟨farRecord, List.mem_singleton_self _, rfl⟩).1
  · obtain ⟨change, -, attempt⟩ := attempts nearRecord _ _ tears
    exact attempt.whole {} _ _ FileTree.isOrderly_empty List.prefix_rfl (follows_tearing _)

end AccountRelay.Registry
