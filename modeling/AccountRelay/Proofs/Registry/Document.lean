import AccountRelay.Proofs.Hex
import AccountRelay.Proofs.Json.ReadingBack
import AccountRelay.Registry.Record

/-! # Reading a registry back

Every field of a record is read back from the node that it is written as, and so is a record
(`WalletRecord.ofNode?_toNode`). A list of records is a plain document, so it is read back from its
text (`Registry.Document.read_render`).
-/

namespace AccountRelay

open Json (Node Piece)

/-! ## Numbers -/

namespace Json

/-- Reading the decimal form of a number gives the number back. -/
theorem digitsValue_render (number : Nat) : digitsValue (Numeral.render 10 number) = number := by
  have read_back (values : List Nat) (small : ∀ value ∈ values, value < 10) :
      (values.map Numeral.digit).filterMap Numeral.decimalDigit? = values := by
    induction values with
    | nil => rfl
    | cons value rest ih =>
        obtain ⟨value_small, rest_small⟩ := List.forall_mem_cons.mp small
        rw [List.map_cons, List.filterMap_cons_some (Numeral.decimalDigit?_digit value value_small),
          ih rest_small]
  rw [digitsValue, Numeral.render, read_back _ (Numeral.digitsOf_lt (by decide) number),
    Numeral.value_digitsOf]

/-- A counter is read back from the number it is written as. -/
theorem uint64?_ofNat (number : UInt64) : (Node.ofNat number.toNat).uint64? = some number := by
  have fits : number.toNat < UInt64.size := number.toNat_lt
  simp [Node.ofNat, Node.uint64?, Literal.below?, Literal.isWhole, digitsValue_render, fits]

end Json

/-! ## Strings of digits -/

namespace Hex

/-- Every string of octets is read back from its text. -/
theorem looseOctets?_toText {size : Nat} (octets : Octets size) :
    looseOctets? size octets.toText.toList = some octets := by
  rw [Octets.toText, looseOctets?_eq_some_iff (isGap_marked octets.toList)]
  exact ⟨_, isBehind_marked octets.toList, spells_encode octets.toList⟩

/-- Every hexadecimal digit is a plain character. -/
theorem isPlain_digit : ∀ value < 16, (Piece.char (Numeral.digit value)).IsPlain := by
  simp only [Piece.IsPlain]
  decide

/-- Bytes in marked hexadecimal need no escape. -/
theorem isPlain_ofText_marked (bytes : Bytes) :
    ∀ piece ∈ Piece.ofText (marked bytes), piece.IsPlain := by
  intro piece member
  obtain ⟨c, c_mem, rfl⟩ := List.mem_map.mp member
  rw [toList_marked, List.mem_cons, List.mem_cons] at c_mem
  rcases c_mem with rfl | rfl | digit
  · simp [Piece.IsPlain]
  · simp [Piece.IsPlain]
  · obtain ⟨value, small, rfl⟩ := exists_digit_of_mem_encode digit
    exact isPlain_digit value small

end Hex

namespace WalletRecord

/-- Octets are read back from the text they are written as. -/
theorem octets?_ofText {size : Nat} (octets : Octets size) :
    octets? size (.ofText octets.toText) = some octets := by
  simp only [octets?, Node.ofText, Node.text?, Piece.text?_ofText, Option.bind_some]
  exact Hex.looseOctets?_toText octets

/-- The document of a hash that there may be. -/
def hashNode : Option Hash → Node
  | some hash => .ofText hash.toText
  | none => .null

/-- A missing hash is written as null and a present one as its text, and both are read back. -/
theorem optional?_hashNode (hash : Option Hash) :
    Node.optional? (octets? 32) (some (hashNode hash)) = some hash := by
  cases hash with
  | none => rfl
  | some hash =>
      have read := octets?_ofText hash
      simp only [Node.ofText] at read
      simp only [hashNode, Node.ofText, Node.optional?, read, Option.map_some]

/-- The members of a record's document, in the order they are written. -/
theorem toNode_eq (record : WalletRecord) : record.toNode = .object [
    (Piece.ofText "address", .ofText record.address.toText),
    (Piece.ofText "salt", .ofNat record.salt.toNat),
    (Piece.ofText "createdAt", .ofNat record.createdAt.toNat),
    (Piece.ofText "userOpHash", hashNode record.operationHash)] := by
  rw [toNode]
  cases record.operationHash with
  | none => rfl
  | some hash => rfl

/-- Of a record's document the reader takes its four members, none of them twice. -/
theorem fields?_toNode (record : WalletRecord) :
    record.toNode.fields? ["address", "salt", "createdAt", "userOpHash"] = some [
      some (.ofText record.address.toText), some (.ofNat record.salt.toNat),
      some (.ofNat record.createdAt.toNat), some (hashNode record.operationHash)] := by
  rw [toNode_eq]
  simp [Node.fields?, Node.keyed?, Piece.text?_ofText, Node.only?]

/-- A record is read back from the document it is written as. -/
theorem ofNode?_toNode (record : WalletRecord) : ofNode? record.toNode = some record := by
  have address := octets?_ofText record.address
  have salt := Json.uint64?_ofNat record.salt
  have createdAt := Json.uint64?_ofNat record.createdAt
  have hash := optional?_hashNode record.operationHash
  simp only [ofNode?, fields?_toNode, Option.bind_eq_bind, Option.bind_some, address, salt,
    createdAt, hash, Option.pure_def]

/-- A record's document holds nothing that needs an escape. -/
theorem isPlain_toNode (record : WalletRecord) : record.toNode.IsPlain := by
  have address := Hex.isPlain_ofText_marked record.address.toList
  have operationHash : (hashNode record.operationHash).IsPlain := by
    cases record.operationHash with
    | none => exact .null
    | some hash => exact .string (Hex.isPlain_ofText_marked hash.toList)
  rw [toNode_eq]
  refine .object ?_ ?_
  · simp [Piece.ofText, Piece.IsPlain]
  · simp only [List.forall_mem_cons]
    exact ⟨.string address, .ofNat _, .ofNat _, operationHash, List.forall_mem_nil _⟩

end WalletRecord

namespace Registry.Document

/-- The records of a registry are read back from the list they are written as. -/
theorem records?_map_toNode (records : List WalletRecord) :
    records? (.array (records.map WalletRecord.toNode)) = some records := by
  induction records with
  | nil => rfl
  | cons record rest ih =>
      simp only [records?, List.map_cons, List.mapM_cons, WalletRecord.ofNode?_toNode] at ih ⊢
      simp [ih]

/-- **A list of records is read back from its document.** -/
theorem read_render (records : List WalletRecord) : read (render records) = some records := by
  have wallets_plain : ∀ node ∈ records.map WalletRecord.toNode, node.IsPlain := by
    intro node member
    obtain ⟨record, -, rfl⟩ := List.mem_map.mp member
    exact record.isPlain_toNode
  have plain : (Node.object [(Piece.ofText "wallets",
      .array (records.map WalletRecord.toNode))]).IsPlain := by
    refine .object ?_ ?_
    · simp [Piece.ofText, Piece.IsPlain]
    · simpa using .array wallets_plain
  rw [read, render, Json.read_pretty plain]
  simp [Node.fields?, Node.keyed?, Piece.text?_ofText, Node.only?, records?_map_toNode]

end Registry.Document

end AccountRelay
