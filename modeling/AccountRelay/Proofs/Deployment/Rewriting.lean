import AccountRelay.Proofs.Deployment
import AccountRelay.Proofs.Json.Reading
import AccountRelay.Proofs.Json.Records

/-! # Deployments, however they are laid out

A document of a deployment can be rewritten (`Deployment.Document.Rewritten`): the members of the object
and of its terms of payment stand in another order and among members under unknown keys, or either of
the two is an array of its fields. That changes no field, up to what stands in an array for an absent
one (`Deployment.Terms.ofNode?_rewritten`, `Deployment.Document.ofNode?_rewritten`). So every text that
spells the rewritten document gives the same deployment (`Deployment.ends_load_however_laid_out`).
-/

namespace AccountRelay.Deployment

open Json (Node Field Members)

/-- The fields of the terms of payment in the order of an array. -/
def Terms.fields : List Field :=
  [⟨"markupBps", some .null⟩, ⟨"initialFundingWei", some .null⟩,
    ⟨"fundingMode", some (.ofText "paymasterMint")⟩, ⟨"paymasterValiditySeconds", some .null⟩,
    ⟨"paymasterVerificationGasLimit", some .null⟩, ⟨"paymasterPostOpGasLimit", some .null⟩]

/-- The fields of a deployment in the order of an array. -/
def Document.fields : List Field :=
  [⟨"chainId", none⟩, ⟨"rpc", none⟩, ⟨"rpcEnvVar", some .null⟩, ⟨"bundler", none⟩,
    ⟨"entryPoint", none⟩, ⟨"accountFactory", none⟩, ⟨"paymaster", none⟩, ⟨"policy", none⟩]

/-- Whether a node holds the same deployment as an object, with its terms of payment or the whole
rewritten, or both, or neither. -/
def Document.Rewritten (node other : Node) : Prop :=
  ∃ members changed : Members, node = .object members ∧
    List.Forall₂ (Json.ChangedUnder "policy" (Json.Rewritten Terms.fields)) members changed ∧
    Json.Rewritten fields (.object changed) other

/-! ## Fields -/

/-- An optional field is the same when null stands for its absence. -/
theorem optional?_eq_of_substitutes {α : Type} {read : Node → Option α} {key : String}
    {found other : Option Node} (substitutes : Field.Substitutes ⟨key, some .null⟩ found other) :
    Node.optional? read other = Node.optional? read found := by
  rcases substitutes with rfl | ⟨rfl, rfl⟩
  · rfl
  · rfl

/-- A field without a substitute is the same. -/
theorem eq_of_substitutes {key : String} {found other : Option Node}
    (substitutes : Field.Substitutes ⟨key, none⟩ found other) : other = found := by
  rcases substitutes with rfl | ⟨rfl, rfl⟩
  · rfl
  · rfl

/-- A field under another key than the changed one is the same. -/
theorem eq_of_changes {key own : String} {substitute : Option Node} {change : Node → Node → Prop}
    {found other : Option Node} (changes : Field.Changes key change ⟨own, substitute⟩ found other)
    (different : own ≠ key) : other = found :=
  changes.resolve_right fun named => different named.1

/-- The mode of the funding by the paymaster is read. -/
theorem fundingMode?_paymasterMint : fundingMode? (.ofText "paymasterMint") = some .paymasterMint := by
  rw [Node.ofText, fundingMode?, Json.Piece.text?_ofText]
  rfl

/-- Terms of payment that are read are read the same when rewritten. -/
theorem Terms.ofNode?_rewritten {node other : Node} {terms : Terms}
    (rewritten : Json.Rewritten fields node other) (reads : ofNode? node = some terms) :
    ofNode? other = some terms := by
  obtain ⟨founds, found, reads⟩ := Option.bind_eq_some_iff.mp reads
  obtain ⟨others, given, each⟩ := rewritten.exists_fields? found
  refine Option.bind_eq_some_iff.mpr ⟨others, given, ?_⟩
  obtain ⟨_, _, _, _, rfl, rfl, markup, each⟩ := each.of_cons
  obtain ⟨_, _, _, _, rfl, rfl, funding, each⟩ := each.of_cons
  obtain ⟨_, _, _, _, rfl, rfl, mode, each⟩ := each.of_cons
  obtain ⟨_, _, _, _, rfl, rfl, validity, each⟩ := each.of_cons
  obtain ⟨_, _, _, _, rfl, rfl, verification, each⟩ := each.of_cons
  obtain ⟨_, _, _, _, rfl, rfl, postOp, each⟩ := each.of_cons
  obtain ⟨rfl, rfl⟩ := each.of_nil
  simp only [optional?_eq_of_substitutes markup, optional?_eq_of_substitutes funding,
    optional?_eq_of_substitutes validity, optional?_eq_of_substitutes verification,
    optional?_eq_of_substitutes postOp]
  rcases mode with rfl | ⟨rfl, rfl⟩
  · exact reads
  · simp only [fundingMode?_paymasterMint]
    exact reads

/-- A document that is read is read the same when rewritten. -/
theorem Document.ofNode?_rewritten {node other : Node} {document : Document}
    (rewritten : Json.Rewritten fields node other) (reads : ofNode? node = some document) :
    ofNode? other = some document := by
  obtain ⟨founds, found, reads⟩ := Option.bind_eq_some_iff.mp reads
  obtain ⟨others, given, each⟩ := rewritten.exists_fields? found
  refine Option.bind_eq_some_iff.mpr ⟨others, given, ?_⟩
  obtain ⟨_, _, _, _, rfl, rfl, chainId, each⟩ := each.of_cons
  obtain ⟨_, _, _, _, rfl, rfl, rpc, each⟩ := each.of_cons
  obtain ⟨_, _, _, _, rfl, rfl, rpcVariable, each⟩ := each.of_cons
  obtain ⟨_, _, _, _, rfl, rfl, bundler, each⟩ := each.of_cons
  obtain ⟨_, _, _, _, rfl, rfl, entryPoint, each⟩ := each.of_cons
  obtain ⟨_, _, _, _, rfl, rfl, factory, each⟩ := each.of_cons
  obtain ⟨_, _, _, _, rfl, rfl, paymaster, each⟩ := each.of_cons
  obtain ⟨_, _, _, _, rfl, rfl, terms, each⟩ := each.of_cons
  obtain ⟨rfl, rfl⟩ := each.of_nil
  rw [eq_of_substitutes chainId, eq_of_substitutes rpc, eq_of_substitutes bundler,
    eq_of_substitutes entryPoint, eq_of_substitutes factory, eq_of_substitutes paymaster,
    eq_of_substitutes terms]
  simp only [optional?_eq_of_substitutes rpcVariable]
  exact reads

/-- The deployment is the same when its terms of payment are read the same. -/
theorem Document.ofNode?_changed {members changed : Members} {document : Document}
    (each : List.Forall₂ (Json.ChangedUnder "policy" (Json.Rewritten Terms.fields)) members changed)
    (reads : ofNode? (.object members) = some document) : ofNode? (.object changed) = some document := by
  obtain ⟨founds, found, reads⟩ := Option.bind_eq_some_iff.mp reads
  obtain ⟨others, given, each⟩ := Json.exists_fields?_of_changed fields each found
  refine Option.bind_eq_some_iff.mpr ⟨others, given, ?_⟩
  obtain ⟨_, _, _, _, rfl, rfl, chainId, each⟩ := each.of_cons
  obtain ⟨_, _, _, _, rfl, rfl, rpc, each⟩ := each.of_cons
  obtain ⟨_, _, _, _, rfl, rfl, rpcVariable, each⟩ := each.of_cons
  obtain ⟨_, _, _, _, rfl, rfl, bundler, each⟩ := each.of_cons
  obtain ⟨_, _, _, _, rfl, rfl, entryPoint, each⟩ := each.of_cons
  obtain ⟨_, _, _, _, rfl, rfl, factory, each⟩ := each.of_cons
  obtain ⟨_, _, _, _, rfl, rfl, paymaster, each⟩ := each.of_cons
  obtain ⟨_, _, _, _, rfl, rfl, terms, each⟩ := each.of_cons
  obtain ⟨rfl, rfl⟩ := each.of_nil
  rw [eq_of_changes chainId (by decide), eq_of_changes rpc (by decide),
    eq_of_changes rpcVariable (by decide), eq_of_changes bundler (by decide),
    eq_of_changes entryPoint (by decide), eq_of_changes factory (by decide),
    eq_of_changes paymaster (by decide)]
  rcases terms with rfl | ⟨-, node, other, rfl, rfl, rewritten⟩
  · exact reads
  · cases own : Terms.ofNode? node with
    | none => simp [own] at reads
    | some terms =>
        simp only [own] at reads
        simpa only [Terms.ofNode?_rewritten rewritten own] using reads

/-! ## Texts -/

/-- A text is read as the document that it spells. -/
theorem Document.read_eq_some_iff {text : String} {document : Document} :
    read text = some document ↔ ∃ node, Json.Spells text.toList node ∧ ofNode? node = some document := by
  rw [read, Option.bind_eq_some_iff]
  exact exists_congr fun node => and_congr_left' Json.read_eq_some_iff

variable {path text : String} {rpc bundler : Option String}
  {asked : List (Exchange (Files.sum Environment))} {deployment : Deployment}

/-- Of its text, loading looks only at the document that is read in it. -/
theorem exists_read_and_ends_load
    (loads : (load path rpc bundler).Ends
      (⟨.inl (.read path), (.ok (Bytes.ofText text) : Except FileFault Bytes)⟩ :: asked) (.ok deployment)) :
    ∃ document, Document.read text = some document ∧
      ∀ {other : String}, Document.read other = some document →
        (load path rpc bundler).Ends
          (⟨.inl (.read path), (.ok (Bytes.ofText other) : Except FileFault Bytes)⟩ :: asked)
          (.ok deployment) := by
  obtain ⟨_, asked, own, split, reads, follows⟩ := loads.bind_ok
  obtain ⟨exchanges, rfl, ends⟩ := reads.inl
  obtain ⟨reply, rfl, decoded⟩ := Dialogue.ends_ask_ofExcept_iff.mp ends
  cases split
  rw [Files.bind_textOf_ofText] at decoded
  cases decoded
  cases read : Document.read text with
  | none =>
      rw [read] at follows
      cases follows.2
  | some document =>
      refine ⟨document, rfl, fun {other} same => ?_⟩
      apply (Files.ends_readText (.readDeployment path) path other).of_inl.of_bind
      rw [same, ← read]
      exact follows

/-- **A deployment means the same however it is laid out.** The document of an accepted text can be
rewritten, and spelled with any blanks between its tokens: the text is accepted with the same
deployment. -/
theorem ends_load_however_laid_out
    (loads : (load path rpc bundler).Ends
      (⟨.inl (.read path), (.ok (Bytes.ofText text) : Except FileFault Bytes)⟩ :: asked) (.ok deployment)) :
    ∃ node, Json.Spells text.toList node ∧
      ∀ {rewritten : Node} {other : String}, Document.Rewritten node rewritten →
        Json.Spells other.toList rewritten →
        (load path rpc bundler).Ends
          (⟨.inl (.read path), (.ok (Bytes.ofText other) : Except FileFault Bytes)⟩ :: asked)
          (.ok deployment) := by
  obtain ⟨document, read, same⟩ := exists_read_and_ends_load loads
  obtain ⟨node, spells, given⟩ := Document.read_eq_some_iff.mp read
  refine ⟨node, spells, ?_⟩
  rintro rewritten other ⟨members, changed, rfl, each, anew⟩ spelled
  have document_same := Document.ofNode?_rewritten anew (Document.ofNode?_changed each given)
  exact same (Document.read_eq_some_iff.mpr ⟨rewritten, spelled, document_same⟩)

section OnLocalNet

open Json (Piece)

namespace Document

/-- The deployment that the net in memory serves, with one term of payment. -/
def pricedOnLocalNet : Node :=
  .object (membersOnLocalNet (some (.object [(Piece.ofText "markupBps", .ofNat 12000)])))

/-- The same in reverse, with the terms of payment as an array and a member under an unknown key. -/
def reversedOnLocalNet : Node :=
  .object (membersOnLocalNet (some (.array [.ofNat 12000])) ++
    [(Piece.ofText "note", Node.array [.array []])]).reverse

/-- The term of payment needs no escapes. -/
theorem isPlain_pricedTerms :
    ∀ node ∈ some (Node.object [(Piece.ofText "markupBps", .ofNat 12000)]), node.IsPlain := by
  rintro _ ⟨⟩
  refine .object ?_ (List.forall_mem_singleton.mpr (.ofNat 12000))
  simp [Piece.ofText, Piece.IsPlain]

/-- The document with one term of payment needs no escapes. -/
theorem isPlain_pricedOnLocalNet : pricedOnLocalNet.IsPlain := by
  obtain ⟨keys_plain, plain⟩ := isPlain_members isPlain_pricedTerms
  exact .object keys_plain plain

/-- The document in reverse needs no escapes. -/
theorem isPlain_reversedOnLocalNet : reversedOnLocalNet.IsPlain := by
  have terms_plain : ∀ node ∈ some (Node.array [.ofNat 12000]), node.IsPlain := by
    rintro _ ⟨⟩
    exact .array (List.forall_mem_singleton.mpr (.ofNat 12000))
  obtain ⟨keys_plain, plain⟩ := isPlain_members terms_plain
  have note_plain : (Node.array [.array []]).IsPlain :=
    .array (List.forall_mem_singleton.mpr (.array (List.forall_mem_nil _)))
  have note_key : ∀ piece ∈ Piece.ofText "note", piece.IsPlain := by
    simp [Piece.ofText, Piece.IsPlain]
  refine .object ?_ ?_
  · intro member among
    rcases List.mem_append.mp (List.mem_reverse.mp among) with own | added
    · exact keys_plain member own
    · rwa [List.mem_singleton.mp added]
  · intro member among
    rcases List.mem_append.mp (List.mem_reverse.mp among) with own | added
    · exact plain member own
    · rwa [List.mem_singleton.mp added]

/-- The document with one term of payment is read with that term. -/
theorem read_pricedOnLocalNet :
    read pricedOnLocalNet.pretty = some {
      chainId := LocalNet.localChain
      rpc := ""
      rpcVariable := none
      bundler := ""
      entryPoint := LocalNet.entryPoint.toText
      accountFactory := (Octets.filled 20 0xfa).toText
      paymaster := (Octets.filled 20 0xaa).toText
      terms := { markup := some 12000 } } := by
  have fields : (Node.object [(Piece.ofText "markupBps", .ofNat 12000)]).fields? ["markupBps",
      "initialFundingWei", "fundingMode", "paymasterValiditySeconds",
      "paymasterVerificationGasLimit", "paymasterPostOpGasLimit"] =
        some [some (.ofNat 12000), none, none, none, none, none] := by
    simp [Node.fields?, Node.keyed?, Piece.text?_ofText, Node.only?]
  have markup : Node.optional? Node.uint64? (some (.ofNat 12000)) = some (some 12000) := by
    exact congrArg (Option.map some) (Json.uint64?_ofNat 12000)
  have absent {α : Type} {own : Node → Option α} : Node.optional? own none = some none := rfl
  refine read_members isPlain_pricedTerms ?_
  simp only [Option.elim_some, Terms.ofNode?, fields, Option.bind_eq_bind, Option.bind_some, markup,
    absent, Option.pure_def]

/-- The document in reverse is the other one, rewritten. -/
theorem rewritten_onLocalNet : Rewritten pricedOnLocalNet reversedOnLocalNet := by
  refine ⟨_, membersOnLocalNet (some (.array [.ofNat 12000])), rfl, ?_, .object ?_ (List.reverse_perm _)⟩
  · refine .cons (.same _) (.cons (.same _) (.cons (.same _) (.cons (.same _) (.cons (.same _)
      (.cons (.same _) (.cons (.changed (Piece.text?_ofText "policy") (.array ?_)) .nil))))))
    apply Json.Lists.given
    · simp [Json.underKey, Piece.text?_ofText]
    · apply Json.Lists.omitted
      simp [Json.underKey, Piece.text?_ofText]
  · refine List.forall_mem_singleton.mpr ⟨"note", Piece.text?_ofText "note", ?_⟩
    decide

end Document

/-- The document with one term of payment is loaded with its markup. -/
theorem ends_load_pricedOnLocalNet :
    (load "deployment.json" none none).Ends
      [⟨.inl (.read "deployment.json"),
        (.ok (Bytes.ofText Document.pricedOnLocalNet.pretty) : Except FileFault Bytes)⟩]
      (.ok { onLocalNet with gasPolicy := ⟨12000⟩ }) := by
  apply (Files.ends_readText (.readDeployment "deployment.json") "deployment.json" _).of_inl.of_bind
  rw [Document.read_pricedOnLocalNet]
  exact ⟨rfl, rfl⟩

/-- The document in reverse is loaded with the same markup. -/
theorem ends_load_reversedOnLocalNet :
    (load "deployment.json" none none).Ends
      [⟨.inl (.read "deployment.json"),
        (.ok (Bytes.ofText Document.reversedOnLocalNet.pretty) : Except FileFault Bytes)⟩]
      (.ok { onLocalNet with gasPolicy := ⟨12000⟩ }) := by
  obtain ⟨node, spells, same⟩ := ends_load_however_laid_out ends_load_pricedOnLocalNet
  have node_eq : Document.pricedOnLocalNet = node := by
    rw [← Json.read_eq_some_iff, Json.read_pretty Document.isPlain_pricedOnLocalNet] at spells
    exact Option.some.inj spells
  rw [← node_eq] at same
  exact same Document.rewritten_onLocalNet
    (Json.read_eq_some_iff.mp (Json.read_pretty Document.isPlain_reversedOnLocalNet))

end OnLocalNet

end AccountRelay.Deployment
