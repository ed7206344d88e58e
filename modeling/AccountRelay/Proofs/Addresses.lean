import AccountRelay.Bundler.Reply
import AccountRelay.Deployment.Document
import AccountRelay.Proofs.Hex
import AccountRelay.Proofs.Outcome
import AccountRelay.Proofs.Registry.Stored

/-! # The readers of addresses

Addresses come from callers, from deployment documents and from registries, each with a reader of
its own. `Hex.ReadsExactly` is what the readers of callers' values have in common: which texts they
take, which bytes they find there, and that they undo the writer. The reader of a deployment finds
what is spelled once the gaps are taken out (`Deployment.readAddress_eq_ok_iff`), and the one of a
registry finds in a text without gaps what is spelled there (`WalletRecord.octets?_eq_some_iff`). So
the three agree where there is nothing to take out, and a wallet is recorded under a path exactly
when one of the address texts there spells it (`Registry.run_requireRegistered_iff`).
-/

namespace AccountRelay

open Json (Node)

/-! ## Values of callers -/

namespace Hex

/-- A reader takes the texts that are digits of either case behind at most one mark, if `admits`
their number; it finds the bytes that are spelled there, and so undoes `write`. -/
structure ReadsExactly {ε α : Type} (admits : Nat → Prop) (bytes : α → Bytes) (write : α → String)
    (read : String → Except ε α) : Prop where
  accepts (text : String) : (∃ value, read text = .ok value) ↔
    ∃ digits, IsBehind 1 text.toList digits ∧ admits digits.length ∧ ∀ c ∈ digits, IsDigit c
  finds (text : String) (value : α) : read text = .ok value ↔
    ∃ digits, IsBehind 1 text.toList digits ∧ Spells digits (bytes value)
  undoes (value : α) : read (write value) = .ok value

/-- Who finds what is spelled takes the texts that can spell a value, and undoes the writer. -/
theorem ReadsExactly.of_finds {ε α : Type} {admits : Nat → Prop} {bytes : α → Bytes}
    {read : String → Except ε α}
    (finds : ∀ text value, read text = .ok value ↔
      ∃ digits, IsBehind 1 text.toList digits ∧ Spells digits (bytes value))
    (even : ∀ count, admits count → count % 2 = 0)
    (sized : ∀ data : Bytes, admits (2 * data.length) ↔ ∃ value, bytes value = data) :
    ReadsExactly admits bytes (fun value => marked (bytes value)) read where
  accepts text := by
    constructor
    · rintro ⟨value, found⟩
      obtain ⟨digits, behind, spells⟩ := (finds text value).mp found
      refine ⟨digits, behind, ?_, spells.isDigit⟩
      rw [spells.length_eq]
      exact (sized _).mpr ⟨value, rfl⟩
    · rintro ⟨digits, behind, admitted, all⟩
      obtain ⟨data, spells⟩ := exists_spells_iff.mpr ⟨even _ admitted, all⟩
      rw [spells.length_eq] at admitted
      obtain ⟨value, rfl⟩ := (sized data).mp admitted
      exact ⟨value, (finds text value).mpr ⟨digits, behind, spells⟩⟩
  finds := finds
  undoes value := (finds _ value).mpr ⟨_, isBehind_marked _, spells_encode _⟩

/-- A reader that finds exactly the octets of a size reads exactly the hexadecimal texts of that size.
-/
theorem readsExactly_octets {ε : Type} (size : Nat) {read : String → Except ε (Octets size)}
    (finds : ∀ text octets, read text = .ok octets ↔ octets? size text.toList = some octets) :
    ReadsExactly (· = 2 * size) Octets.toList Octets.toText read := by
  apply ReadsExactly.of_finds
  · intro text octets
    rw [finds, octets?_eq_some_iff]
  · rintro _ rfl
    exact Nat.mul_mod_right 2 size
  · intro data
    constructor
    · intro sized
      exact ⟨⟨data, by omega⟩, rfl⟩
    · rintro ⟨octets, rfl⟩
      rw [octets.length_eq]

end Hex

namespace Input

/-- Bytes on the command line are read from hexadecimal texts with an even number of digits. -/
theorem readsExactly_bytes (field : String) :
    Hex.ReadsExactly (· % 2 = 0) id Hex.marked (Input.bytes field) := by
  apply Hex.ReadsExactly.of_finds
  · intro text data
    rw [Input.bytes, Outcome.mapError_eq_ok_iff, Hex.decodeMarked_eq_ok_iff]
    rfl
  · exact fun _ even => even
  · intro data
    exact ⟨fun _ => ⟨data, rfl⟩, fun _ => Nat.mul_mod_right 2 _⟩

/-- An address on the command line is read as twenty octets. -/
theorem address_eq_ok_iff {field text : String} {address : Address} :
    Input.address field text = .ok address ↔ Hex.octets? 20 text.toList = some address := by
  rw [Input.address]
  cases Hex.octets? 20 text.toList with
  | some found => simp
  | none => simp

/-- An address on the command line is read from texts with exactly forty digits. -/
theorem readsExactly_address (field : String) :
    Hex.ReadsExactly (· = 40) Octets.toList Octets.toText (Input.address field) :=
  Hex.readsExactly_octets 20 fun _ _ => address_eq_ok_iff

end Input

/-- A hash is read from texts with exactly sixty-four digits. -/
theorem Hash.readsExactly_parse :
    Hex.ReadsExactly (· = 64) Octets.toList Octets.toText Hash.parse := by
  refine Hex.readsExactly_octets 32 ?_
  intro text hash
  rw [Hash.parse, Hex.octets?]
  cases Hex.decodeMarked text.toList with
  | error fault => simp
  | ok bytes =>
    cases sized : Octets.ofBytes? 32 bytes with
    | none => simp [sized]
    | some found => simp [sized]

/-! ## Deployments -/

namespace Deployment

/-- The digits found are those of the text without gaps, if they are as many as they have to be. -/
theorem addressDigits_eq_ok_iff {count position : Nat} {text : List Char} {values : List Nat} :
    addressDigits count position text = .ok values ↔
      (text.filter fun c => !Hex.isGap c).mapM Numeral.hexDigit? = some values ∧
        values.length = count := by
  fun_induction addressDigits count position text generalizing values with
  | case1 position => simp
  | case2 count position some_digit =>
    constructor
    · intro read
      cases read
    · rintro ⟨read, sized⟩
      cases read
      exact absurd sized.symm some_digit
  | case3 count position c rest gap ih =>
    rw [ih, List.filter_cons_of_neg (by simp [gap])]
  | case4 position c rest solid =>
    rw [List.filter_cons_of_pos (by simp [solid]), Numeral.mapM_cons_eq_some_iff]
    simp only [reduceCtorEq, false_iff]
    rintro ⟨⟨value, others, -, -, rfl⟩, none⟩
    cases none
  | case5 position c rest solid count digit found ih =>
    rw [List.filter_cons_of_pos (by simp [solid]), Numeral.mapM_cons_eq_some_iff, found,
      Outcome.map_eq_ok_iff]
    simp only [ih]
    constructor
    · rintro ⟨others, ⟨read, sized⟩, rfl⟩
      exact ⟨⟨digit, others, rfl, read, rfl⟩, congrArg (· + 1) sized⟩
    · rintro ⟨⟨value, others, same, read, rfl⟩, sized⟩
      cases same
      exact ⟨others, ⟨read, Nat.succ.inj sized⟩, rfl⟩
  | case6 position c rest solid count missing =>
    rw [List.filter_cons_of_pos (by simp [solid]), Numeral.mapM_cons_eq_some_iff, missing]
    simp

/-- The reader of documents takes an address without its mark and with its gaps left out. -/
theorem readAddress_eq_ok_iff_unmarked {text : String} {address : Address} :
    readAddress text = .ok address ↔
      Hex.Spells ((Hex.unmarked text.toList).filter fun c => !Hex.isGap c) address.toList := by
  rw [readAddress, Outcome.bind_eq_ok_iff]
  simp only [addressDigits_eq_ok_iff]
  constructor
  · rintro ⟨values, ⟨read, sized⟩, found⟩
    have spells := Hex.spells_pairs read (by omega)
    cases octets : Octets.ofBytes? 20 (Hex.pairs values) with
    | none =>
      rw [octets] at found
      cases found
    | some other =>
      rw [octets] at found
      cases found
      rwa [← Octets.ofBytes?_eq_some_iff.mp octets]
  · intro spells
    have read := Hex.spells_iff.mp spells
    have sized := Hex.length_of_mapM_hexDigit? read
    rw [spells.length_eq, address.length_eq] at sized
    refine ⟨_, ⟨read, sized⟩, ?_⟩
    rw [Hex.pairs_flatMap, Octets.ofBytes?_eq_some_iff.mpr rfl]
    rfl

/-- What is read from a text is what it spells behind at most one mark, once the gaps are taken out. -/
theorem readAddress_eq_ok_iff {text : String} {address : Address} :
    readAddress text = .ok address ↔
      ∃ rest, Hex.IsBehind 1 text.toList rest ∧
        Hex.Spells (rest.filter fun c => !Hex.isGap c) address.toList := by
  rw [readAddress_eq_ok_iff_unmarked]
  constructor
  · intro spells
    exact ⟨_, Hex.isBehind_unmarked text.toList, spells⟩
  · rintro ⟨rest, behind, spells⟩
    -- a mark is no gap, so it would be among the digits
    have plain : 'x' ∉ rest := by
      intro member
      exact Hex.notMem_of_isDigit spells.isDigit (List.mem_filter.mpr ⟨member, rfl⟩)
    rwa [(Hex.isBehind_one_iff plain).mp behind]

/-- A text without gaps is read as a caller's would be. -/
theorem readAddress_eq_ok_iff_address {field text : String} {address : Address}
    (plain : ∀ c ∈ text.toList, Hex.isGap c = false) :
    readAddress text = .ok address ↔ Input.address field text = .ok address := by
  have dense := Hex.filter_gap_eq_self fun c member => plain c (Hex.mem_of_mem_unmarked member)
  rw [readAddress_eq_ok_iff_unmarked, dense, Input.address_eq_ok_iff, Hex.octets?_eq_some_iff,
    Hex.exists_isBehind_spells_iff]

end Deployment

/-! ## Registries -/

namespace WalletRecord

/-- The text in the address field of a record's document. -/
def addressText? (node : Node) : Option String := do
  match ← node.fields? ["address", "salt", "createdAt", "userOpHash"] with
  | [address, _, _, _] => address.bind Node.text?
  | _ => none

/-- A text without gaps in a document is read as a caller's would be. -/
theorem octets?_eq_some_iff {field text : String} {node : Node} {address : Address}
    (holds : node.text? = some text) (plain : ∀ c ∈ text.toList, Hex.isGap c = false) :
    octets? 20 node = some address ↔ Input.address field text = .ok address := by
  rw [octets?, holds, Option.bind_some, Hex.looseOctets?_eq_some_iff plain,
    Input.address_eq_ok_iff, Hex.octets?_eq_some_iff]

/-- The address of a record is read from the text in its address field. -/
theorem address_of_ofNode? {node : Node} {record : WalletRecord}
    (read : ofNode? node = some record) :
    ∃ text, addressText? node = some text ∧
      Hex.looseOctets? 20 text.toList = some record.address := by
  simp only [ofNode?, Option.bind_eq_bind, Option.bind_eq_some_iff] at read
  obtain ⟨fields, found, read⟩ := read
  split at read
  · rename_i address salt createdAt operationHash
    simp only [Option.bind_eq_some_iff, Option.pure_def, Option.some.injEq] at read
    obtain ⟨own, ⟨node, present, octets⟩, -, -, -, -, -, -, rfl⟩ := read
    obtain ⟨text, holds, loosely⟩ := Option.bind_eq_some_iff.mp octets
    refine ⟨text, ?_, loosely⟩
    simp only [addressText?, found, Option.bind_eq_bind, Option.bind_some, present, holds]
  · cases read

end WalletRecord

namespace Registry

/-- The texts in the address fields of a document, one a record. -/
def Document.addressTexts? (text : String) : Option (List String) := do
  let node ← Json.read text.toList
  match ← node.fields? ["wallets"] with
  | [some (.array items)] => items.mapM WalletRecord.addressText?
  | _ => return []

/-- The texts in the address fields of the document under a path. -/
def addressTexts (tree : FileTree) (path : String) : List String :=
  if tree.hasEntry path then
    match tree.read path with
    | .ok content => ((Bytes.text? content).bind Document.addressTexts?).getD []
    | .error _ => []
  else []

/-- A text spells the address of a record for the reader of registries. -/
def Names (text : String) (record : WalletRecord) : Prop :=
  Hex.looseOctets? 20 text.toList = some record.address

/-- A wallet is among the records exactly when one of the texts that name them spells it. -/
theorem mem_map_address_iff {texts : List String} {records : List WalletRecord} {wallet : Address}
    (named : List.Forall₂ Names texts records) :
    wallet ∈ records.map (·.address) ↔
      ∃ text ∈ texts, Hex.looseOctets? 20 text.toList = some wallet := by
  induction named with
  | nil => simp
  | cons names _ ih =>
    unfold Names at names
    simp only [List.map_cons, List.mem_cons, ih, exists_eq_or_imp, names, Option.some.injEq]
    rw [eq_comm]

/-- Every record read from a document is named by the text of its address member. -/
theorem exists_names_of_mapM {items : List Node} {records : List WalletRecord}
    (read : items.mapM WalletRecord.ofNode? = some records) :
    ∃ texts, items.mapM WalletRecord.addressText? = some texts ∧
      List.Forall₂ Names texts records := by
  induction items generalizing records with
  | nil =>
    cases read
    exact ⟨[], rfl, .nil⟩
  | cons node rest ih =>
    simp only [List.mapM_cons, bind, pure, Option.bind_eq_some_iff, Option.some.injEq] at read
    obtain ⟨record, here, others, behind, rfl⟩ := read
    obtain ⟨text, found, names⟩ := WalletRecord.address_of_ofNode? here
    obtain ⟨texts, all_found, all_named⟩ := ih behind
    refine ⟨text :: texts, ?_, .cons names all_named⟩
    rw [List.mapM_cons, found, all_found]
    rfl

/-- The texts of a document name its records, one each. -/
theorem Document.exists_names {text : String} {records : List WalletRecord}
    (read : Document.read text = some records) :
    ∃ texts, Document.addressTexts? text = some texts ∧ List.Forall₂ Names texts records := by
  simp only [Document.read, Option.bind_eq_bind, Option.bind_eq_some_iff] at read
  obtain ⟨node, parsed, fields, found, read⟩ := read
  simp only [Document.addressTexts?, parsed, found, Option.bind_eq_bind, Option.bind_some]
  split at read
  · rename_i wallets
    cases wallets with
    | array items => exact exists_names_of_mapM read
    | null | bool | number | string | object => cases read
  · rename_i no_wallets
    cases read
    refine ⟨[], ?_, .nil⟩
    split
    · rename_i items
      exact absurd rfl (no_wallets _)
    · rfl

variable {tree : FileTree} {path : String} {registry : Registry} {wallet : Address}

/-- The texts of a registry that opens name its records, one each. -/
theorem names_of_run_load (opened : (tree.run (load path)).1 = .ok registry) :
    List.Forall₂ Names (addressTexts tree path) registry.records := by
  unfold addressTexts
  cases there : tree.hasEntry path with
  | false =>
    rw [run_load_of_missing there] at opened
    cases opened
    exact .nil
  | true =>
    rw [run_load_of_there there] at opened
    cases reads : tree.read path with
    | error fault =>
      obtain ⟨failure, failed⟩ := ofReply_error path fault
      rw [reads, failed] at opened
      cases opened
    | ok content =>
      rw [reads] at opened
      rcases ofReply_ok path content with ⟨records, spelled, done⟩ | ⟨-, failure, failed⟩
      · rw [done] at opened
        cases opened
        obtain ⟨text, spells, read⟩ := Option.bind_eq_some_iff.mp spelled
        obtain ⟨texts, found, named⟩ := Document.exists_names read
        simp only [↓reduceIte, spells, Option.bind_some, found, Option.getD_some]
        exact named
      · rw [failed] at opened
        cases opened

/-- A lookup finds a wallet exactly when a record has its address. -/
theorem isSome_get?_iff : (registry.get? wallet).isSome ↔ wallet ∈ registry.records.map (·.address) := by
  simp [get?, List.find?_isSome]

/-- A wallet passes exactly when it is the address of one of the records. -/
theorem run_requireRegistered_of_load (opened : (tree.run (load path)).1 = .ok registry) :
    (tree.run (requireRegistered path wallet)).1 = .ok () ↔
      wallet ∈ registry.records.map (·.address) := by
  rw [← isSome_get?_iff, requireRegistered, FileTree.run, Dialogue.run_bind]
  rw [FileTree.run] at opened
  cases loaded : Dialogue.run FileTree.answer (load path) tree with
  | mk outcome after =>
    rw [loaded] at opened
    obtain rfl : outcome = .ok registry := opened
    dsimp only
    cases registry.get? wallet with
    | some record => simp
    | none => simp

/-- A wallet passes exactly when one of the texts under the path spells it, provided that there are
no gaps in them. -/
theorem run_requireRegistered_iff (opened : (tree.run (load path)).1 = .ok registry)
    (plain : ∀ text ∈ addressTexts tree path, ∀ c ∈ text.toList, Hex.isGap c = false) :
    (tree.run (requireRegistered path wallet)).1 = .ok () ↔
      ∃ text ∈ addressTexts tree path, ∃ digits,
        Hex.IsBehind 1 text.toList digits ∧ Hex.Spells digits wallet.toList := by
  rw [run_requireRegistered_of_load opened, mem_map_address_iff (names_of_run_load opened)]
  exact exists_congr fun text => and_congr_right fun present =>
    Hex.looseOctets?_eq_some_iff (plain text present)

end Registry

/-- **The readers of addresses agree.** The readers of byte strings, of addresses and of hashes take
exactly the texts that are an even number of digits (40, 64) of either case behind at most one mark,
find the bytes that are written there, and undo their writers. On a text without gaps the readers of
deployments and of registries take an address exactly when the reader of callers' values does, and
the same one; with gaps, the reader of deployments takes the text that spells the address once the
gaps behind the mark are taken out. So, where a registry opens and there are no gaps in its address
texts, a wallet is recorded exactly when one of them spells it. -/
theorem address_readers_agree :
    (∀ field, Hex.ReadsExactly (· % 2 = 0) id Hex.marked (Input.bytes field)) ∧
    (∀ field, Hex.ReadsExactly (· = 40) Octets.toList Octets.toText (Input.address field)) ∧
    Hex.ReadsExactly (· = 64) Octets.toList Octets.toText Hash.parse ∧
    (∀ (field text : String) (address : Address), (∀ c ∈ text.toList, Hex.isGap c = false) →
      (Deployment.readAddress text = .ok address ↔ Input.address field text = .ok address) ∧
      ∀ node : Node, node.text? = some text →
        (WalletRecord.octets? 20 node = some address ↔ Input.address field text = .ok address)) ∧
    (∀ (text : String) (address : Address), Deployment.readAddress text = .ok address ↔
      ∃ rest, Hex.IsBehind 1 text.toList rest ∧
        Hex.Spells (rest.filter fun c => !Hex.isGap c) address.toList) ∧
    ∀ (tree : FileTree) (path : String) (registry : Registry) (wallet : Address),
      (tree.run (Registry.load path)).1 = .ok registry →
      (∀ text ∈ Registry.addressTexts tree path, ∀ c ∈ text.toList, Hex.isGap c = false) →
      ((tree.run (Registry.requireRegistered path wallet)).1 = .ok () ↔
        ∃ text ∈ Registry.addressTexts tree path, ∃ digits,
          Hex.IsBehind 1 text.toList digits ∧ Hex.Spells digits wallet.toList) := by
  refine ⟨Input.readsExactly_bytes, Input.readsExactly_address, Hash.readsExactly_parse, ?_,
    fun _ _ => Deployment.readAddress_eq_ok_iff, ?_⟩
  · intro field text address plain
    refine ⟨Deployment.readAddress_eq_ok_iff_address plain, ?_⟩
    intro node holds
    exact WalletRecord.octets?_eq_some_iff holds plain
  · intro tree path registry wallet opened plain
    exact Registry.run_requireRegistered_iff opened plain

/-- A tree with a registry of one wallet, whose address is in capitals and has no mark. -/
def Registry.capitalTree : FileTree where
  entries := [(["wallets.json"], .file 0)]
  contents := [(0, Bytes.ofText ("\x7b\"wallets\":[\x7b\"address\":" ++
    "\"ABABABABABABABABABABABABABABABABABABABAB\",\"salt\":1,\"createdAt\":2\x7d]\x7d"))]
  made := 1

/-- A wallet is recorded even if its address is in capitals and has no mark. -/
theorem address_readers_agree_in_capitals :
    (Registry.capitalTree.run (Registry.load "wallets.json")).1 =
        .ok ⟨"wallets.json", [⟨.filled 20 0xab, 1, 2, none⟩]⟩ ∧
      Registry.addressTexts Registry.capitalTree "wallets.json" =
        ["ABABABABABABABABABABABABABABABABABABABAB"] ∧
      (Registry.capitalTree.run (Registry.requireRegistered "wallets.json" (.filled 20 0xab))).1 =
        .ok () := by
  have spelled : Registry.spelled? (Registry.capitalTree.content 0) =
      some [⟨.filled 20 0xab, 1, 2, none⟩] := by decide +kernel
  have reads : Registry.capitalTree.read "wallets.json" =
      .ok (Registry.capitalTree.content 0) := rfl
  have opened := congrArg Prod.fst (Registry.run_load_of_read reads spelled)
  have texts : Registry.addressTexts Registry.capitalTree "wallets.json" =
      ["ABABABABABABABABABABABABABABABABABABABAB"] := by decide +kernel
  have spells : "ABABABABABABABABABABABABABABABABABABABAB".toList.map Char.toLower =
      Hex.encode (Octets.filled 20 0xab).toList := by decide +kernel
  obtain ⟨-, -, -, -, -, recorded⟩ := address_readers_agree
  refine ⟨opened, texts, (recorded _ _ _ _ opened ?_).mpr ?_⟩
  · rw [texts, List.forall_mem_singleton]
    exact fun c member => (Hex.Spells.isDigit spells c member).isGap
  · rw [texts]
    exact ⟨_, List.mem_singleton.mpr rfl, _, ⟨0, Nat.zero_le 1, rfl⟩, spells⟩

end AccountRelay
