import AccountRelay.Proofs.LocalNet.Reference
import AccountRelay.Proofs.Pipeline.Questions
import AccountRelay.Proofs.Registry.Saving
import AccountRelay.Proofs.Salts
import AccountRelay.Registry.Creation

/-! # Salts of created wallets

A run that creates a wallet opens the registry first (`Pipeline.createNext`), and asks for no other
salt than that of the counter behind the records it finds (`CreateRun.counter_of_uses`). When it
succeeds the registry has grown by a record with that counter, and else it is as it was
(`CreateRun.stored_of_takes`). So a run in which the bundler takes an operation uses no counter of a
record and none of an earlier success, unless the registry had a record with a counter above their
number (`CreateRun.no_salt_twice`).
-/

namespace AccountRelay

/-! ## Runs -/

/-- Opens a registry and creates its next wallet. -/
def Pipeline.createNext (pipeline : Pipeline) (path : String) (paymaster : Option Address) :
    RecordedWork Creation := do
  let registry ← (Registry.load path).inr
  pipeline.createWallet registry paymaster

/-- A run that creates the next wallet of the registry under a path, with all that was asked and
answered. -/
structure CreateRun (path : String) where
  pipeline : Pipeline
  paymaster : Option Address
  exchanges : List (Exchange (Services.sum Files))
  outcome : Except Failure Creation
  ended : (pipeline.createNext path paymaster).Ends exchanges outcome

namespace CreateRun

variable {path : String}

/-- The exchanges with the services. -/
def consultation (run : CreateRun path) : List (Exchange Services) :=
  run.exchanges.filterMap Exchange.left?

/-- The exchanges with the file system. -/
def filing (run : CreateRun path) : List (Exchange Files) :=
  run.exchanges.filterMap Exchange.right?

/-- Whether the bundler takes an operation of a run, for the wallet of a counter's salt. -/
def Uses (run : CreateRun path) (counter : UInt64) : Prop :=
  (∃ owner reply, ⟨.counterfactualAddress owner (Salt.ofCounter counter), reply⟩ ∈ run.consultation) ∧
    ∃ operation entryPoint hash, ⟨.send operation entryPoint, .ok hash⟩ ∈ run.consultation

/-- Whether a run ends with the record of a wallet that it has created. -/
def HasRecorded (run : CreateRun path) (record : WalletRecord) : Prop :=
  ∃ creation, run.outcome = .ok creation ∧ creation.outcome = .ok record

/-- Whether a run may find a tree and leave another, with any of its questions failing. -/
def Takes (run : CreateRun path) (tree after : FileTree) : Prop :=
  tree.Follows run.filing after

/-- Whether runs may find a tree one after the other and leave another. -/
def InTurn : FileTree → List (CreateRun path) → FileTree → Prop
  | tree, [], after => after = tree
  | tree, run :: rest, after => ∃ middle, run.Takes tree middle ∧ InTurn middle rest after

variable {run : CreateRun path} {tree after : FileTree} {records : List WalletRecord}
  {record : WalletRecord} {counter : UInt64}

open Registry (Stored)

/-- A run records at most one wallet. -/
theorem HasRecorded.unique (recorded : run.HasRecorded record) {other : WalletRecord}
    (also : run.HasRecorded other) : other = record := by
  obtain ⟨creation, ended, success⟩ := recorded
  obtain ⟨_, ended', success'⟩ := also
  cases ended.symm.trans ended'
  exact Except.ok.inj (success'.symm.trans success)

/-- A run fails to open the registry, or opens it, has its next wallet deployed, and records that. -/
theorem exists_parts (run : CreateRun path) :
    (run.consultation = [] ∧ ∃ failure, run.outcome = .error failure ∧
      (Registry.load path).Ends run.filing (.error failure)) ∨
    ∃ loading filed registry attempted, run.filing = loading ++ filed ∧
      (Registry.load path).Ends loading (.ok registry) ∧
      (run.pipeline.deployWallet registry.nextSalt run.paymaster).Ends run.consultation attempted ∧
      match attempted with
      | .error failure => filed = [] ∧ run.outcome = .ok { registry, outcome := .error failure }
      | .ok record => ∃ changed, (registry.create record).Ends filed changed ∧
          run.outcome = changed.map fun change =>
            { registry := change.registry, outcome := change.outcome.map fun _ => record } := by
  obtain ⟨pipeline, paymaster, exchanges, outcome, ended⟩ := run
  rcases ended.bind with ⟨failure, rfl, failed⟩ | ⟨_, _, registry, rfl, loaded, creates⟩
  · obtain ⟨loading, rfl, fails⟩ := failed.inr
    refine .inl ⟨Exchange.filterMap_left?_inr loading, failure, rfl, ?_⟩
    rw [filing, Exchange.filterMap_right?_inr]
    exact fails
  · obtain ⟨loading, rfl, loads⟩ := loaded.inr
    obtain ⟨asked, filed, attempted, rfl, deploys, records⟩ := Pipeline.ends_createWallet creates
    refine .inr ⟨loading, filed, registry, attempted, ?_, loads, ?_, records⟩
    · rw [filing, List.filterMap_append, List.filterMap_append, Exchange.filterMap_right?_inr,
        Exchange.filterMap_right?_inl, Exchange.filterMap_right?_inr, List.nil_append]
    · rw [consultation, List.filterMap_append, List.filterMap_append, Exchange.filterMap_left?_inr,
        Exchange.filterMap_left?_inl, Exchange.filterMap_left?_inr, List.nil_append, List.append_nil]
      exact deploys

/-- A run cannot open the registry, or has the next wallet deployed, and it leaves the registry as it
was unless it ends with the record of the wallet. -/
theorem cases_of_takes (stored : Stored tree path records) (takes : run.Takes tree after) :
    (run.consultation = [] ∧ (∀ record, ¬ run.HasRecorded record) ∧ Stored after path records) ∨
      ∃ attempted, (run.pipeline.deployWallet (Registry.mk path records).nextSalt run.paymaster).Ends
        run.consultation attempted ∧
        ((∀ record, ¬ run.HasRecorded record) ∧ Stored after path records ∨
          ∃ record, attempted = .ok record ∧ run.HasRecorded record ∧
            Stored after path (records ++ [record])) := by
  unfold Takes at takes
  rcases run.exists_parts with
    ⟨silent, failure, failed, fails⟩ | ⟨loading, filed, registry, attempted, whole, loads, deploys, ends⟩
  · refine .inl ⟨silent, ?_, ?_⟩
    · rintro record ⟨creation, success, -⟩
      cases failed.symm.trans success
    · rw [((Registry.leaves_load stored).of_ends fails takes).1]
      exact stored
  · rw [whole] at takes
    obtain ⟨middle, first, follows⟩ := FileTree.follows_append_iff.mp takes
    obtain ⟨rfl, opened⟩ := (Registry.leaves_load stored).of_ends loads first
    obtain rfl := opened registry rfl
    refine .inr ⟨attempted, deploys, ?_⟩
    cases attempted with
    | error failure =>
        obtain ⟨rfl, ended⟩ := ends
        obtain rfl : after = middle := follows
        refine .inl ⟨?_, stored⟩
        rintro record ⟨creation, success, recorded⟩
        cases ended.symm.trans success
        cases recorded
    | ok record =>
        obtain ⟨_, files, ended⟩ := ends
        obtain ⟨⟨registry, changed⟩, rfl, left⟩ :=
          (Registry.leaves_create stored record).of_ends files follows
        cases changed with
        | error failure =>
            refine .inl ⟨?_, left⟩
            rintro record ⟨creation, success, recorded⟩
            cases ended.symm.trans success
            cases recorded
        | ok => exact .inr ⟨record, rfl, ⟨_, ended, rfl⟩, left⟩

/-- A run uses no other counter than the next one. -/
theorem counter_of_uses (stored : Stored tree path records) (takes : run.Takes tree after)
    (uses : run.Uses counter) : counter = (Registry.mk path records).nextSalt := by
  obtain ⟨⟨owner, reply, derives⟩, -⟩ := uses
  rcases cases_of_takes stored takes with ⟨silent, -⟩ | ⟨attempted, deploys, -⟩
  · rw [silent] at derives
    cases derives
  · exact Salt.ofCounter_inj.mp
      ((run.pipeline.asks_deployWallet _ run.paymaster).of_ends deploys _ derives)

/-- A run that ends with a record has added it, and any other has changed nothing. -/
theorem stored_of_takes (stored : Stored tree path records) (takes : run.Takes tree after) :
    (∀ record, ¬ run.HasRecorded record) ∧ Stored after path records ∨
      ∃ record, run.HasRecorded record ∧ record.salt = (Registry.mk path records).nextSalt ∧
        Stored after path (records ++ [record]) := by
  rcases cases_of_takes stored takes with ⟨-, same⟩ | ⟨_, deploys, same | ⟨record, rfl, recorded, grown⟩⟩
  · exact .inl same
  · exact .inl same
  · exact .inr ⟨record, recorded, (Pipeline.ends_deployWallet deploys).1, grown⟩

/-- The next salt is at most one more than the number of records, and less only when the counter wraps.
-/
theorem toNat_nextSalt_le (path : String) (records : List WalletRecord) :
    (Registry.mk path records).nextSalt.toNat ≤ records.length + 1 := by
  rw [Registry.nextSalt_eq, UInt64.toNat_ofNat']
  exact Nat.mod_le _ _

/-- The registry grows by the records of the runs that end with one, which have the counters that
these runs use, and no counter lies above the number of records. -/
theorem InTurn.stored {runs : List (CreateRun path)} (turns : InTurn tree runs after)
    (stored : Stored tree path records) : ∃ added, Stored after path (records ++ added) ∧
      (∀ record ∈ added, record.salt.toNat ≤ (records ++ added).length) ∧
      ∀ run ∈ runs, ∀ record, run.HasRecorded record → record ∈ added ∧
        ∀ counter, run.Uses counter → record.salt = counter := by
  -- Each run may add a record, so the records vary in the induction.
  induction runs generalizing tree records with
  | nil =>
      obtain rfl : after = tree := turns
      refine ⟨[], (List.append_nil records).symm ▸ stored, ?_, ?_⟩
      · exact fun _ member => nomatch member
      · exact fun _ member => nomatch member
  | cons run rest ih =>
      obtain ⟨middle, takes, turns⟩ := turns
      rcases stored_of_takes stored takes with ⟨none, same⟩ | ⟨record, recorded, salt, grown⟩
      · obtain ⟨added, stored, low, sourced⟩ := ih turns same
        refine ⟨added, stored, low, List.forall_mem_cons.mpr ⟨?_, sourced⟩⟩
        exact fun record recorded => absurd recorded (none record)
      · obtain ⟨added, later, low, sourced⟩ := ih turns grown
        have whole : records ++ [record] ++ added = records ++ record :: added :=
          List.append_assoc _ _ _
        rw [whole] at later low
        refine ⟨record :: added, later, List.forall_mem_cons.mpr ⟨?_, low⟩,
          List.forall_mem_cons.mpr ⟨?_, ?_⟩⟩
        · have own := toNat_nextSalt_le path records
          rw [salt, List.length_append, List.length_cons]
          omega
        · intro other also
          obtain rfl := recorded.unique also
          refine ⟨List.mem_cons_self, ?_⟩
          intro counter uses
          rw [salt, counter_of_uses stored takes uses]
        · intro one member other also
          obtain ⟨there, own⟩ := sourced one member other also
          exact ⟨List.mem_cons_of_mem _ there, own⟩

/-- **No salt is used twice.** Let a registry open with records of which none has a counter above
their number, and let runs create wallets in it one after the other, whichever of their questions
fail. An operation that the bundler takes in a run uses no counter of a record that the run finds, and
none that an earlier run has used that ended with a record. -/
theorem no_salt_twice {middle : FileTree} {before : List (CreateRun path)}
    (orderly : tree.IsOrderly) (opens : Registry.Opens tree path records)
    (low : ∀ record ∈ records, record.salt.toNat ≤ records.length)
    (turns : InTurn tree before middle) (takes : run.Takes middle after)
    (uses : run.Uses counter) :
    ∃ opened, Registry.stored? middle path = some opened ∧ records <+: opened ∧
      -- a list of more records than there are counters does not fit into a memory
      (opened.length + 1 < UInt64.size → (∀ record ∈ opened, record.salt ≠ counter) ∧
        ∀ one ∈ before, ∀ record, one.HasRecorded record → ¬ one.Uses counter) := by
  obtain ⟨added, stored, added_low, sourced⟩ := turns.stored (opens.stored orderly)
  refine ⟨records ++ added, stored.stored?_eq, List.prefix_append _ _, ?_⟩
  intro fits
  have next := counter_of_uses stored takes uses
  have high : counter.toNat = (records ++ added).length + 1 := by
    rw [next, Registry.nextSalt_eq, UInt64.toNat_ofNat_of_lt' fits]
  have other : ∀ record ∈ records ++ added, record.salt ≠ counter := by
    rintro record member rfl
    rcases List.mem_append.mp member with old | new
    · have bound := low record old
      rw [List.length_append] at high
      omega
    · have bound := added_low record new
      omega
  refine ⟨other, ?_⟩
  intro one member record recorded used
  obtain ⟨there, own⟩ := sourced one member record recorded
  exact other record (List.mem_append_right _ there) (own counter used)

/-! ## Runs on a net and a tree in memory -/

/-- Any answers that have a wallet deployed are those of a run, and any with which its record is
written. -/
theorem exists_run {pipeline : Pipeline} {paymaster : Option Address}
    {deploying : List (Exchange Services)} {filed : List (Exchange Files)} {change : Registry.Change}
    (orderly : tree.IsOrderly) (opens : Registry.Opens tree path records)
    (deploys : (pipeline.deployWallet (Registry.mk path records).nextSalt paymaster).Ends deploying
      (.ok record))
    (files : ((Registry.mk path records).create record).Ends filed (.ok change))
    (follows : tree.Follows filed after) : ∃ run : CreateRun path, run.Takes tree after ∧
      run.consultation = deploying ∧
      run.outcome = .ok ⟨change.registry, change.outcome.map fun _ => record⟩ := by
  obtain ⟨loading, loads, first⟩ := tree.exists_follows_run (Registry.load path)
  rw [((Registry.leaves_load (opens.stored orderly)).of_ends loads first).1] at first
  rw [opens.accepted] at loads
  have creates : (pipeline.createWallet ⟨path, records⟩ paymaster).Ends
      (deploying.map Exchange.inl ++ (filed.map Exchange.inr ++ []))
      (.ok ⟨change.registry, change.outcome.map fun _ => record⟩) :=
    deploys.of_attempt.of_inl.of_bind (files.of_inr.of_bind ⟨rfl, rfl⟩)
  refine ⟨⟨pipeline, paymaster, _, _, loads.of_inr.of_bind creates⟩, ?_, ?_, rfl⟩
  · simp only [Takes, filing, List.filterMap_append, Exchange.filterMap_right?_inr,
      Exchange.filterMap_right?_inl, List.nil_append, List.append_nil]
    exact FileTree.follows_append_iff.mpr ⟨tree, first, follows⟩
  · simp only [consultation, List.filterMap_append, Exchange.filterMap_left?_inr,
      Exchange.filterMap_left?_inl, List.nil_append, List.append_nil]

/-- Deploying under a counter uses that counter's salt. -/
theorem uses_of_deploys {pipeline : Pipeline} {paymaster : Option Address}
    (deploys : (pipeline.deployWallet counter paymaster).Ends run.consultation (.ok record)) :
    run.Uses counter :=
  (Pipeline.ends_deployWallet deploys).2

/-- The pipeline of an owner whose wallets the net in memory deploys. -/
def localPipeline : Pipeline where
  deployment := .onLocalNet
  owner := .filled 20 0x22

/-- With an obliging bundler a wallet is deployed under any counter. -/
theorem exists_yields_deployWallet (counter : UInt64) : ∃ record operation,
    LocalNet.Yields .obliging (localPipeline.deployWallet counter none) (.ok record)
      (LocalNet.obliging.taking operation) := by
  let request : Request := { wallet := .derived (Salt.ofCounter counter), paymaster := none }
  have sendable : Sendable localPipeline .obliging request := .of_derived rfl rfl
  obtain ⟨hash, operation, sends⟩ := sendable.exists_yields rfl
  let wallet := LocalNet.walletAddress localPipeline.owner (Salt.ofCounter counter)
  let record : WalletRecord := ⟨wallet, counter, 1700000000, some hash⟩
  have derives : LocalNet.Yields .obliging (localPipeline.resolver.counterfactualAddress
      (Salt.ofCounter counter)) (.ok wallet) .obliging :=
    .asking rfl (.counterfactualAddress localPipeline.owner _) trivial (.done wallet)
  have reads : LocalNet.Yields (LocalNet.obliging.taking operation) Services.now (.ok 1700000000)
      (LocalNet.obliging.taking operation) :=
    .asking rfl .now trivial (.done _)
  exact ⟨record, operation, derives.bind (sends.bind (reads.bind (.done record)))⟩

/-- Under any counter there is a run in which the deployment succeeds. -/
theorem exists_deployed (counter : UInt64) : ∃ deploying record,
    (localPipeline.deployWallet counter none).Ends deploying (.ok record) := by
  obtain ⟨record, operation, deployed⟩ := exists_yields_deployWallet counter
  obtain ⟨later, ended⟩ := deployed.exists_consult
  obtain ⟨deploying, ends⟩ := Dialogue.exists_ends_run LocalNet.answer
    (localPipeline.deployWallet counter none) .obliging
  have succeeds : (Dialogue.run LocalNet.answer (localPipeline.deployWallet counter none)
      .obliging).1 = .ok record :=
    congrArg Prod.fst ended
  rw [succeeds] at ends
  exact ⟨deploying, record, ends⟩

/-- A tree with a registry. -/
def registryTree (records : List WalletRecord) : FileTree where
  entries := [(["wallets.json"], .file 0)]
  contents := [(0, Bytes.ofText (Registry.Document.render records))]
  made := 1

/-- A tree with the document of a registry that has yet to take its name. -/
def tempTree (records : List WalletRecord) : FileTree where
  entries := [(["wallets.json.tmp"], .file 0)]
  contents := [(0, Bytes.ofText (Registry.Document.render records))]
  made := 1

/-- The first write leaves the records in the file beside the registry's. -/
theorem write_tempTree (records : List WalletRecord) :
    ({} : FileTree).write (Registry.tempPath "wallets.json")
      (Bytes.ofText (Registry.Document.render records)) = .ok (tempTree records) := by
  rw [tempTree]
  generalize Bytes.ofText (Registry.Document.render records) = content
  rfl

/-- The rename puts the written records in the registry's place. -/
theorem rename_tempTree (records : List WalletRecord) :
    (tempTree records).rename (Registry.tempPath "wallets.json") "wallets.json" =
      .ok (registryTree records) := rfl

/-- On the empty tree a save ends with the registry's file alone. -/
theorem follows_registryTree (records : List WalletRecord) :
    ({} : FileTree).Follows (Registry.replacing ⟨"wallets.json", records⟩) (registryTree records) :=
  Registry.follows_replacing (write_tempTree records) (rename_tempTree records)

/-- The first wallet of a registry is recorded. -/
theorem run_create_first (record : WalletRecord) :
    ({} : FileTree).run (Registry.create ⟨"wallets.json", []⟩ record) =
      (.ok ⟨⟨"wallets.json", [record]⟩, .ok ()⟩, registryTree [record]) := by
  have saves : ({} : FileTree).run (Registry.save ⟨"wallets.json", [record]⟩) =
      (.ok (), registryTree [record]) := by
    have nowhere : Path.directory? "wallets.json" = none := by decide
    rw [Registry.save, Registry.makeDirectory_eq_done nowhere]
    exact (FileTree.run_asking (FileTree.answer_write (write_tempTree [record]))).trans
      (FileTree.run_asking (FileTree.answer_rename (rename_tempTree [record])))
  have creates : Registry.create ⟨"wallets.json", []⟩ record =
      ((Registry.save ⟨"wallets.json", [record]⟩).attempt >>= fun outcome =>
        .done ⟨⟨"wallets.json", [record]⟩, outcome⟩) := rfl
  rw [FileTree.run] at saves ⊢
  rw [creates, Dialogue.run_bind, Dialogue.run_attempt, saves]
  rfl

/-- A tree that holds only the registry's file is orderly. -/
theorem isOrderly_registryTree (records : List WalletRecord) : (registryTree records).IsOrderly :=
  (follows_registryTree records).isOrderly FileTree.isOrderly_empty

/-- The registry's file, when opened, gives back the records that were saved. -/
theorem opens_registryTree (records : List WalletRecord) :
    Registry.Opens (registryTree records) "wallets.json" records := by
  have there : (registryTree records).read "wallets.json" =
      .ok (Bytes.ofText (Registry.Document.render records)) := rfl
  refine ⟨congrArg Prod.fst (Registry.run_load_of_read there (Registry.spelled?_render _)), ?_⟩
  intro absent
  cases absent

/-- Whatever a registry holds, some run uses the counter behind its records. -/
theorem exists_uses (records : List WalletRecord) :
    ∃ (run : CreateRun "wallets.json") (after : FileTree), run.Takes (registryTree records) after ∧
      run.Uses (Registry.mk "wallets.json" records).nextSalt := by
  have opens := opens_registryTree records
  have orderly := isOrderly_registryTree records
  obtain ⟨deploying, record, deploys⟩ :=
    exists_deployed (Registry.mk "wallets.json" records).nextSalt
  obtain ⟨filed, files, follows⟩ := (registryTree records).exists_follows_run
    ((Registry.mk "wallets.json" records).create record)
  obtain ⟨change, changed, -⟩ :=
    (Registry.leaves_create (opens.stored orderly) record).of_ends files follows
  rw [changed] at files
  obtain ⟨run, takes, rfl, -⟩ := exists_run orderly opens deploys files follows
  exact ⟨run, _, takes, uses_of_deploys deploys⟩

/-- A wallet whose salt was counted as the second. -/
def aheadRecord : WalletRecord where
  address := .filled 20 0x11
  salt := 2
  createdAt := 1700000000
  operationHash := none

/-- The counter of a record that lies above the number of records is used again. -/
theorem salt_ahead_used_twice : Registry.Opens (registryTree [aheadRecord]) "wallets.json" [aheadRecord] ∧
    ∃ (run : CreateRun "wallets.json") (after : FileTree),
      run.Takes (registryTree [aheadRecord]) after ∧ run.Uses aheadRecord.salt :=
  ⟨opens_registryTree _, exists_uses [aheadRecord]⟩

/-- A second run uses another counter than a first, which has recorded a wallet. -/
theorem no_salt_twice_second : ∃ (first second : CreateRun "wallets.json") (middle after : FileTree)
    (record : WalletRecord), InTurn {} [first] middle ∧ first.HasRecorded record ∧ first.Uses 1 ∧
      second.Takes middle after ∧ second.Uses 2 ∧ ¬ first.Uses 2 ∧ record.salt ≠ 2 := by
  have opens : Registry.Opens {} "wallets.json" [] := ⟨rfl, fun _ => rfl⟩
  obtain ⟨deploying, record, deploys⟩ := exists_deployed 1
  have nowhere : Path.directory? "wallets.json" = none := by decide
  obtain ⟨first, takes, rfl, ended⟩ := exists_run FileTree.isOrderly_empty opens deploys
    (Registry.ends_create_of_unknown rfl nowhere) (follows_registryTree [record])
  have recorded : first.HasRecorded record := ⟨_, ended, rfl⟩
  have turns : InTurn {} [first] (registryTree [record]) := ⟨_, takes, rfl⟩
  obtain ⟨second, after, second_takes, uses⟩ := exists_uses [record]
  obtain ⟨opened, stored, -, apart⟩ := no_salt_twice FileTree.isOrderly_empty opens nofun turns
    second_takes uses
  have same := ((opens_registryTree [record]).stored (isOrderly_registryTree _)).stored?_eq
  cases stored.symm.trans same
  have fits : 1 + 1 < UInt64.size := by decide
  obtain ⟨others, earlier⟩ := apart fits
  exact ⟨first, second, _, after, record, turns, recorded, uses_of_deploys deploys, second_takes, uses,
    earlier first List.mem_cons_self record recorded, others record List.mem_cons_self⟩

end CreateRun

end AccountRelay
