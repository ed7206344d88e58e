import AccountRelay.Deployment.Document
import AccountRelay.Proofs.Amounts
import AccountRelay.Proofs.Dialogue.Histories
import AccountRelay.Proofs.LocalNet.Reference
import AccountRelay.Proofs.Outcome
import AccountRelay.Proofs.Registry.Document
import AccountRelay.Proofs.Registry.Stored

/-! # What a loaded deployment bounds

A document gives the gas of a paymaster with numbers of 64 bits, and what it leaves out is small. So the
gas that a loaded deployment allows a paymaster always fits in half a word
(`Deployment.isNarrow_of_load`).
-/

namespace AccountRelay

/-- Whether the gas of a paymaster fits in half a word. -/
def PaymasterGas.IsNarrow (gas : PaymasterGas) : Prop :=
  gas.verification.toNat < 2 ^ 128 ∧ gas.postOp.toNat < 2 ^ 128

/-- The bytes of a text are read as that text. -/
theorem Files.bind_textOf_ofText (text : String) :
    (Except.ok (Bytes.ofText text) : Except FileFault Bytes).bind textOf = .ok text := by
  change textOf (Bytes.ofText text) = .ok text
  rw [textOf, Bytes.text?_ofText]

/-- A file with a text for its content is read as that text. -/
theorem Files.ends_readText (context : Context) (path text : String) :
    (readText context path).Ends
      [⟨.read path, (.ok (Bytes.ofText text) : Except FileFault Bytes)⟩] (.ok text) := by
  refine ⟨_, [], rfl, ?_⟩
  simp only [bind_textOf_ofText]
  exact ⟨rfl, rfl⟩

namespace Deployment

/-- To widen a counter keeps its number. -/
theorem toNat_widened (number : UInt64) : (widened number).toNat = number.toNat := by
  exact Uint256.toNat_ofNat (Nat.lt_trans number.toNat_lt (by decide))

/-- A counter that is given fits into half a word, so it may stand for a default that does. -/
theorem narrow_of_given {given : Option UInt64} {default : Uint256} (narrow : default.toNat < 2 ^ 128) :
    ((given.map widened).getD default).toNat < 2 ^ 128 := by
  cases given with
  | none => exact narrow
  | some number =>
      change (widened number).toNat < 2 ^ 128
      rw [toNat_widened]
      exact Nat.lt_trans number.toNat_lt (by decide)

/-- Every deployment that is read keeps the paymaster's gas within its fields. -/
theorem isNarrow_of_ofDocument {document : Document} {rpcUrl bundlerUrl : String}
    {deployment : Deployment} (reads : ofDocument document rpcUrl bundlerUrl = .ok deployment) :
    deployment.paymasterGas.IsNarrow := by
  obtain ⟨_, -, reads⟩ := Outcome.bind_eq_ok_iff.mp reads
  obtain ⟨_, -, reads⟩ := Outcome.bind_eq_ok_iff.mp reads
  obtain ⟨_, -, reads⟩ := Outcome.bind_eq_ok_iff.mp reads
  obtain ⟨_, -, ⟨⟩⟩ := Outcome.bind_eq_ok_iff.mp reads
  exact ⟨narrow_of_given (by decide), narrow_of_given (by decide)⟩

/-- The gas of a paymaster is given with 64 bits in a document. -/
theorem isNarrow_of_load {path : String} {rpc bundler : Option String} {deployment : Deployment}
    {exchanges : List (Exchange (Files.sum Environment))}
    (loads : (load path rpc bundler).Ends exchanges (.ok deployment)) :
    deployment.paymasterGas.IsNarrow := by
  obtain ⟨_, _, text, -, -, loads⟩ := loads.bind_ok
  cases read : Document.read text with
  | none =>
      rw [read] at loads
      cases loads.2
  | some document =>
      rw [read] at loads
      obtain ⟨_, _, rpcUrl, -, -, loads⟩ := loads.bind_ok
      exact isNarrow_of_ofDocument (Dialogue.Ends.ofExcept loads).2.symm

end Deployment

namespace Deployment.Document

open Json (Node Piece)

variable {chainId : UInt64} {entryPoint accountFactory paymaster : Address} {terms : Option Node}

/-- The members of a deployment without endpoints, with its terms of payment if it has any. -/
def members (chainId : UInt64) (entryPoint accountFactory paymaster : Address)
    (terms : Option Node) : List (List Piece × Node) :=
  [(Piece.ofText "chainId", .ofNat chainId.toNat),
    (Piece.ofText "rpc", .ofText ""),
    (Piece.ofText "bundler", .ofText ""),
    (Piece.ofText "entryPoint", .ofText entryPoint.toText),
    (Piece.ofText "accountFactory", .ofText accountFactory.toText),
    (Piece.ofText "paymaster", .ofText paymaster.toText)] ++
  (terms.map (Piece.ofText "policy", ·)).toList

/-- The members are written as they are when the terms of payment are. -/
theorem isPlain_members (plain : ∀ node ∈ terms, node.IsPlain) :
    (∀ member ∈ members chainId entryPoint accountFactory paymaster terms,
      ∀ piece ∈ member.1, piece.IsPlain) ∧
    ∀ member ∈ members chainId entryPoint accountFactory paymaster terms, member.2.IsPlain := by
  constructor
  · cases terms <;> simp [members, Piece.ofText, Piece.IsPlain]
  · simp only [members, List.forall_mem_append, List.forall_mem_cons]
    refine ⟨⟨.ofNat _, .string (List.forall_mem_nil _), .string (List.forall_mem_nil _),
      .string (Hex.isPlain_ofText_marked entryPoint.toList),
      .string (Hex.isPlain_ofText_marked accountFactory.toList),
      .string (Hex.isPlain_ofText_marked paymaster.toList), List.forall_mem_nil _⟩, ?_⟩
    intro member among
    obtain ⟨node, there, rfl⟩ := Option.map_eq_some_iff.mp (Option.mem_toList.mp among)
    exact plain node there

/-- A deployment without endpoints is read with the terms of payment that it has. -/
theorem read_members {given : Terms} (plain : ∀ node ∈ terms, node.IsPlain)
    (reads : terms.elim (some {}) Terms.ofNode? = some given) :
    read (Node.object (members chainId entryPoint accountFactory paymaster terms)).pretty = some {
      chainId
      rpc := ""
      rpcVariable := none
      bundler := ""
      entryPoint := entryPoint.toText
      accountFactory := accountFactory.toText
      paymaster := paymaster.toText
      terms := given } := by
  have fields : (Node.object (members chainId entryPoint accountFactory paymaster terms)).fields?
      ["chainId", "rpc", "rpcEnvVar", "bundler", "entryPoint", "accountFactory", "paymaster",
        "policy"] = some [
          some (.ofNat chainId.toNat), some (.ofText ""), none, some (.ofText ""),
          some (.ofText entryPoint.toText), some (.ofText accountFactory.toText),
          some (.ofText paymaster.toText), terms] := by
    cases terms <;> simp [members, Node.fields?, Node.keyed?, Piece.text?_ofText, Node.only?]
  have text (own : String) : (Node.ofText own).text? = some own := Piece.text?_ofText own
  obtain ⟨keys_plain, nodes_plain⟩ := isPlain_members plain
  rw [read, Json.read_pretty (.object keys_plain nodes_plain), Option.bind_some]
  simp only [ofNode?, fields, Option.bind_eq_bind, Option.bind_some, Json.uint64?_ofNat, text,
    Node.optional?, Option.pure_def]
  cases terms with
  | none =>
      cases reads
      rfl
  | some node => simp only [show Terms.ofNode? node = some given from reads, Option.bind_some]

/-- The members of the deployment that the net in memory serves, with terms of payment. -/
def membersOnLocalNet (terms : Option Node) : List (List Piece × Node) :=
  members LocalNet.localChain LocalNet.entryPoint (.filled 20 0xfa) (.filled 20 0xaa) terms

/-- The text of the deployment that the net in memory serves. -/
def textOnLocalNet : String :=
  (Node.object (membersOnLocalNet none)).pretty

end Deployment.Document

/-- With endpoints given from outside the deployment is the same but for them. -/
theorem Deployment.ends_load_textOnLocalNet (rpc bundler : Option String) :
    (load "deployment.json" rpc bundler).Ends
      [⟨.inl (.read "deployment.json"),
        (.ok (Bytes.ofText Document.textOnLocalNet) : Except FileFault Bytes)⟩]
      (.ok { Deployment.onLocalNet with
        rpcUrl := rpc.getD ""
        bundlerUrl := bundler.getD "" }) := by
  have reads := Files.ends_readText (.readDeployment "deployment.json") "deployment.json"
    Document.textOnLocalNet
  apply reads.of_inl.of_bind
  have no_terms : ∀ node ∈ (none : Option Json.Node), node.IsPlain := nofun
  rw [Document.textOnLocalNet, Document.membersOnLocalNet, Document.read_members no_terms rfl]
  cases rpc with
  | none => exact ⟨rfl, rfl⟩
  | some url => exact ⟨rfl, rfl⟩

/-- The document of the local net loads as the deployment on it. -/
theorem Deployment.ends_load_onLocalNet :
    (load "deployment.json" none none).Ends
      [⟨.inl (.read "deployment.json"),
        (.ok (Bytes.ofText Document.textOnLocalNet) : Except FileFault Bytes)⟩] (.ok .onLocalNet) :=
  ends_load_textOnLocalNet none none

end AccountRelay
