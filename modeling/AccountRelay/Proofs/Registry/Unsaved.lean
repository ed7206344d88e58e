import AccountRelay.Proofs.Registry.Appending

/-! # Wallets that could not be recorded

A registry is saved in up to three steps, each of which can fail; `Registry.Unsaved` says what was asked
by then and what the failure is (`Registry.ends_save_error_iff`). An attempt to record a wallet adds the
record in memory first. So when it fails for a wallet that is known, nothing has changed; when it fails
for another, the registry in memory is ahead of its file by the new record
(`Registry.failed_creation`).
-/

namespace AccountRelay.Registry

variable {registry : Registry} {record : WalletRecord} {exchanges : List (Exchange Files)}

/-! ## Saving -/

/-- What is asked for the directory of a registry, when that is made or there already. -/
def directoryMade (path : String) : List (Exchange Files) :=
  match Path.directory? path with
  | some directory => [⟨.createDirectories directory, (.ok () : Except FileFault Unit)⟩]
  | none => []

/-- The writing of a registry under its temporary name. -/
def drafted (registry : Registry) (reply : Except FileFault Unit) : Exchange Files :=
  ⟨.write (tempPath registry.path) (Document.render registry.records), reply⟩

/-- What is asked when a registry is not saved, and the failure. -/
inductive Unsaved (registry : Registry) : List (Exchange Files) → Failure → Prop
  | directory {directory : String} (lies : Path.directory? registry.path = some directory)
    (fault : FileFault) :
    Unsaved registry [⟨.createDirectories directory, (.error fault : Except FileFault Unit)⟩]
      (.within (.createRegistryDirectory directory) (Files.failure fault))
  | draft (fault : FileFault) :
    Unsaved registry (directoryMade registry.path ++ [registry.drafted (.error fault)])
      (.within (.writeTempRegistry (tempPath registry.path)) (Files.failure fault))
  | rename (fault : FileFault) :
    Unsaved registry (directoryMade registry.path ++ [registry.drafted (.ok ()),
        ⟨.rename (tempPath registry.path) registry.path, (.error fault : Except FileFault Unit)⟩])
      (.replaceRegistry registry.path fault)

/-- A registry's directory is made in one course only, if its path has one. -/
theorem ends_makeDirectory_ok_iff {path : String} :
    (makeDirectory path).Ends exchanges (.ok ()) ↔ exchanges = directoryMade path := by
  unfold makeDirectory directoryMade
  cases Path.directory? path with
  | none => exact ⟨And.left, fun silent => ⟨silent, rfl⟩⟩
  | some directory =>
      constructor
      · rintro ⟨_ | _, rest, rfl, ended⟩
        · cases ended.2
        · rw [ended.1]
      · rintro rfl
        exact ⟨_, [], rfl, rfl, rfl⟩

/-- A registry's directory is not made for one reason only, the fault of the request for it. -/
theorem ends_makeDirectory_error_iff {path : String} {failure : Failure} :
    (makeDirectory path).Ends exchanges (.error failure) ↔
      ∃ directory fault, Path.directory? path = some directory ∧
        exchanges = [⟨.createDirectories directory, (.error fault : Except FileFault Unit)⟩] ∧
        failure = .within (.createRegistryDirectory directory) (Files.failure fault) := by
  unfold makeDirectory
  cases Path.directory? path with
  | none => exact ⟨nofun, nofun⟩
  | some directory =>
      constructor
      · rintro ⟨fault | _, rest, rfl, ended⟩
        · obtain ⟨rfl, ⟨⟩⟩ := ended
          exact ⟨directory, fault, rfl, rfl, rfl⟩
        · cases ended.2
      · rintro ⟨_, fault, ⟨⟩, rfl, rfl⟩
        exact ⟨_, [], rfl, rfl, rfl⟩

/-- Saving a registry fails in one of its three steps, and each of them can fail. -/
theorem ends_save_error_iff {failure : Failure} :
    registry.save.Ends exchanges (.error failure) ↔ registry.Unsaved exchanges failure := by
  constructor
  · intro ends
    rcases ends.bind with ⟨_, ⟨⟩, failed⟩ | ⟨_, _, _, rfl, made, written⟩
    · obtain ⟨directory, fault, lies, rfl, rfl⟩ := ends_makeDirectory_error_iff.mp failed
      exact .directory lies fault
    · rw [ends_makeDirectory_ok_iff.mp made]
      obtain ⟨fault | _, rest, rfl, ended⟩ := written
      · obtain ⟨rfl, ⟨⟩⟩ := ended
        exact .draft fault
      · obtain ⟨fault | _, _, rfl, ended⟩ := ended
        · obtain ⟨rfl, ⟨⟩⟩ := ended
          exact .rename fault
        · cases ended.2
  · intro unsaved
    have made : (makeDirectory registry.path).Ends (directoryMade registry.path) (.ok ()) :=
      ends_makeDirectory_ok_iff.mpr rfl
    cases unsaved with
    | directory lies fault =>
        have failed := ends_makeDirectory_error_iff.mpr ⟨_, fault, lies, rfl, rfl⟩
        exact failed.of_bind_error
    | draft fault => exact made.of_bind ⟨_, [], rfl, rfl, rfl⟩
    | rename fault => exact made.of_bind ⟨_, _, rfl, _, [], rfl, rfl, rfl⟩

/-! ## Recording -/

/-- Whether a registry is another one with the record of a wallet that was unknown to that. -/
structure IsAhead (registry after : Registry) (record : WalletRecord) : Prop where
  records_eq : after.records = registry.records ++ [record]
  count_eq : after.count = registry.count + 1
  nextSalt_eq : after.nextSalt = registry.nextSalt + 1
  get?_own : after.get? record.address = some record
  get?_other : ∀ wallet, wallet ≠ record.address → after.get? wallet = registry.get? wallet

/-- A registry with a record not known before is ahead of the one without it. -/
theorem isAhead_withRecord (unknown : ¬ registry.Has record.address) :
    registry.IsAhead (registry.withRecord record) record := by
  have count_eq : (registry.withRecord record).count = registry.count + 1 := by
    rw [count, withRecord, List.length_append]
    exact UInt64.ofNat_add _ 1
  have nothing : registry.get? record.address = none := by
    rw [has_iff_isSome_get?] at unknown
    exact Option.not_isSome_iff_eq_none.mp unknown
  have behind (wallet : Address) : (registry.withRecord record).get? wallet =
      (registry.get? wallet).or (if record.address = wallet then some record else none) := by
    rw [get?, withRecord, List.find?_append, get?]
    by_cases own : record.address = wallet
    · simp [own]
    · simp [own]
  refine ⟨rfl, count_eq, congrArg (· + 1) count_eq, ?_, ?_⟩
  · rw [behind, nothing, if_pos rfl]
    rfl
  · intro wallet apart
    rw [behind, if_neg apart.symm, Option.or_none]

/-- An attempt to record a wallet fails because the wallet is known, or because the registry with the new
record is not saved. -/
theorem ends_create_error {change : Change} {failure : Failure}
    (ends : (registry.create record).Ends exchanges (.ok change))
    (fails : change.outcome = .error failure) :
    (registry.Has record.address ∧ exchanges = [] ∧ failure = .alreadyRegistered record.address ∧
        change.registry = registry) ∨
      ¬ registry.Has record.address ∧ (registry.withRecord record).Unsaved exchanges failure ∧
        change.registry = registry.withRecord record := by
  obtain ⟨_, ⟨⟩, ⟨known, silent, rfl⟩ | ⟨unknown, same⟩⟩ := ends_create ends
  · cases fails
    exact .inl ⟨known, silent, rfl, rfl⟩
  · refine .inr ⟨unknown, ?_, same⟩
    rw [create_eq unknown] at ends
    obtain ⟨first, _, _, rfl, saved, rfl, ended⟩ := ends.bind_ok
    obtain ⟨attempted, ⟨⟩, saved⟩ := saved.attempt
    cases ended
    cases fails
    rw [List.append_nil]
    exact ends_save_error_iff.mp saved

/-- Who opens a registry after a failed attempt to record a wallet finds what was stored before. -/
theorem opened_after_failure {tree later last : FileTree} {change : Change} {failure : Failure}
    {opening : List (Exchange Files)} {opened : Registry}
    (stored : Stored tree registry.path registry.records)
    (ends : (registry.create record).Ends exchanges (.ok change))
    (fails : change.outcome = .error failure) (follows : tree.Follows exchanges later)
    (opens : (load registry.path).Ends opening (.ok opened)) (goes_on : later.Follows opening last) :
    opened = registry := by
  obtain ⟨_, ⟨⟩, left⟩ := (leaves_create stored record).of_ends ends follows
  rw [fails] at left
  exact ((leaves_load left).of_ends opens goes_on).2 opened rfl

/-- **After a failed attempt a registry is as it was, or ahead of its file.** However its questions are
answered, an attempt to record a wallet that fails has asked nothing and changed nothing if the wallet
was known. Otherwise the registry was not saved, in one of the three steps of that, and in memory it
has the new record all the same: it counts one wallet more, its next salt is one further, and the
wallet is known from now on. The file shows none of this: if it showed the registry before the attempt,
whoever opens it anew finds the registry as it was. -/
theorem failed_creation {change : Change} {failure : Failure}
    (ends : (registry.create record).Ends exchanges (.ok change))
    (fails : change.outcome = .error failure) :
    (registry.Has record.address ∧ exchanges = [] ∧ failure = .alreadyRegistered record.address ∧
          change.registry = registry ∨
        ¬ registry.Has record.address ∧ (registry.withRecord record).Unsaved exchanges failure ∧
          registry.IsAhead change.registry record) ∧
      ∀ tree later, Stored tree registry.path registry.records → tree.Follows exchanges later →
        ∀ opening opened last, (load registry.path).Ends opening (.ok opened) →
          later.Follows opening last → opened = registry := by
  constructor
  · rcases ends_create_error ends fails with refused | ⟨unknown, unsaved, same⟩
    · exact .inl refused
    · rw [same]
      exact .inr ⟨unknown, unsaved, isAhead_withRecord unknown⟩
  · intro tree later stored follows opening opened last opens goes_on
    exact opened_after_failure stored ends fails follows opens goes_on

/-- A tree in which a directory stands in the way of the temporary file. -/
def blockedTree : FileTree where
  entries := [(["wallets.json.tmp"], .directory)]

/-- An attempt whose temporary file cannot be opened leaves its record in memory, where it moves the
next salt, while the registry opens without it. -/
theorem failed_creation_ahead : ∃ change failure,
    blockedTree.run (create ⟨"wallets.json", []⟩ farRecord) = (.ok change, blockedTree) ∧
    change.outcome = .error failure ∧
    change.registry.get? farRecord.address = some farRecord ∧ change.registry.nextSalt = 2 ∧
    ∀ opening opened last, (load "wallets.json").Ends opening (.ok opened) →
      blockedTree.Follows opening last → opened = ⟨"wallets.json", []⟩ := by
  obtain ⟨exchanges, ends, follows⟩ :=
    blockedTree.exists_follows_run (create ⟨"wallets.json", []⟩ farRecord)
  have runs : blockedTree.run (create ⟨"wallets.json", []⟩ farRecord) =
      (.ok ⟨⟨"wallets.json", [farRecord]⟩, .error (.within (.writeTempRegistry "wallets.json.tmp")
        (Files.failure .isADirectory))⟩, blockedTree) := rfl
  rw [runs] at ends follows
  obtain ⟨⟨⟨_, known, -⟩, -⟩ | ⟨-, -, ahead⟩, opens⟩ := failed_creation ends rfl
  · nomatch known
  · have gains : FileTree.GainsDirectories {} blockedTree :=
      FileTree.gainsDirectories_makeDirectories 1 {} "wallets.json.tmp"
    have stored : Stored blockedTree "wallets.json" [] :=
      (stored_of_missing FileTree.isFresh_empty rfl).gains gains
    refine ⟨_, _, runs, rfl, ahead.get?_own, ahead.nextSalt_eq, ?_⟩
    exact opens blockedTree blockedTree stored follows

/-- The registry in memory is not what it was before a failed attempt: it has the wallet that could not
be saved. -/
theorem changed_by_failure : ∃ change failure,
    blockedTree.run (create ⟨"wallets.json", []⟩ farRecord) = (.ok change, blockedTree) ∧
    change.outcome = .error failure ∧ change.registry.records ≠ [] ∧ change.registry.count ≠ 0 ∧
    change.registry.nextSalt ≠ nextSalt ⟨"wallets.json", []⟩ ∧
    change.registry.get? farRecord.address ≠ get? ⟨"wallets.json", []⟩ farRecord.address ∧
    blockedTree.run (load "wallets.json") = (.ok ⟨"wallets.json", []⟩, blockedTree) :=
  ⟨_, _, rfl, rfl, by decide, by decide, by decide, by decide, rfl⟩

end AccountRelay.Registry
