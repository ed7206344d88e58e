import AccountRelay.Draft
import AccountRelay.Proofs.Abi.Decoding
import AccountRelay.Proofs.Authorization
import AccountRelay.Proofs.Contracts.Deriving

/-! # What contracts are asked of an operation

The entry point and a paymaster declare the members of an operation (`PackedOperation.components`). The
data that they are called with are read by that declaration as the members of the operation that was
packed, in this order, and then as the bounds of the window. So an operation and a window are known by
the data of these calls (`Contracts.asked_about_what_was_packed`).
-/

namespace AccountRelay

namespace PackedOperation

variable {operation other : PackedOperation}

/-- The members of an operation as the contracts declare them. -/
def components : List (String × Abi.Kind) :=
  [("sender", .address), ("nonce", .uint 256), ("initCode", .bytes), ("callData", .bytes),
    ("accountGasLimits", .bytes32), ("preVerificationGas", .uint 256), ("gasFees", .bytes32),
    ("paymasterAndData", .bytes), ("signature", .bytes)]

/-- The declared type of an operation. -/
def kind : Abi.Kind :=
  .tuple (components.map (·.2))

/-- The members of an operation, with the names and in the order of their declaration. -/
def members (operation : PackedOperation) : List (String × Abi.Value) :=
  [("sender", .address operation.sender), ("nonce", .number 256 operation.nonce.toNat),
    ("initCode", .bytes operation.initCode), ("callData", .bytes operation.callData),
    ("accountGasLimits", .word operation.accountGasLimits),
    ("preVerificationGas", .number 256 operation.preVerificationGas.toNat),
    ("gasFees", .word operation.gasFees), ("paymasterAndData", .bytes operation.paymasterAndData),
    ("signature", .bytes operation.signature)]

/-- What the argument of an operation stands for. -/
def value (operation : PackedOperation) : Abi.Value :=
  .tuple (operation.members.map (·.2))

/-- The members of a packed operation have the kinds declared for its components. -/
theorem kinds_members (operation : PackedOperation) :
    (operation.members.map fun (name, value) => (name, value.kind)) = components :=
  rfl

/-- Every number of a packed operation keeps to the width of its kind. -/
theorem isNarrow_value (operation : PackedOperation) : operation.value.IsNarrow :=
  ⟨trivial, ⟨Nat.le_refl _, operation.nonce.isLt⟩, trivial, trivial, trivial,
    ⟨Nat.le_refl _, operation.preVerificationGas.isLt⟩, trivial, trivial, trivial, trivial⟩

/-- A packed operation can be told from its value. -/
theorem value_inj : operation.value = other.value ↔ operation = other := by
  constructor
  · intro same
    cases operation
    cases other
    simp only [value, members, List.map_cons, List.map_nil, Abi.Value.tuple.injEq, List.cons.injEq,
      Abi.Value.address.injEq, Abi.Value.number.injEq, Abi.Value.bytes.injEq, Abi.Value.word.injEq,
      true_and, and_true, BitVec.toNat_inj] at same
    obtain ⟨rfl, rfl, rfl, rfl, rfl, rfl, rfl, rfl, rfl⟩ := same
    rfl
  · rintro rfl
    rfl

/-- The byte strings of an operation are no longer than what a machine has addresses for. -/
structure IsStored (operation : PackedOperation) : Prop where
  initCode : operation.initCode.length < 2 ^ 64
  callData : operation.callData.length < 2 ^ 64
  paymasterAndData : operation.paymasterAndData.length < 2 ^ 64
  signature : operation.signature.length < 2 ^ 64

/-- A question about a stored operation, with at most two words more, is shorter than a word can count.
-/
theorem IsStored.length_encode_lt (stored : operation.IsStored) (words : List Word)
    (few : words.length ≤ 2) :
    (Abi.encode (operation.toArgument :: words.map .word)).length < 256 ^ 32 := by
  have behind (words : List Word) : Abi.roomOfAll (words.map .word) = 64 * words.length := by
    induction words with
    | nil => rfl
    | cons word rest ih =>
        simp only [List.map_cons, Abi.roomOfAll, Abi.Argument.room, ih, List.length_cons]
        omega
  refine Nat.lt_of_le_of_lt (Abi.length_encode_le _) ?_
  simp only [Abi.roomOfAll, Abi.Argument.room, toArgument, Abi.Argument.ofAddress,
    Abi.Argument.ofNumber, behind]
  obtain ⟨initCode, callData, paymasterAndData, signature⟩ := stored
  omega

end PackedOperation

/-- A paymaster is asked about the packed operation, and a window that its bounds can name. -/
theorem Authorization.asks_authorize_packed (validity now : UInt64) (operation : Operation) :
    (authorize validity now operation).Asks fun request =>
      ∀ paymaster packed window, request = ServiceRequest.paymasterHash paymaster packed window →
        operation.activePaymaster = some paymaster ∧ operation.pack = .ok packed ∧
          window.validUntil.toNat < 2 ^ 48 ∧ window.validAfter.toNat < 2 ^ 48 := by
  unfold authorize
  cases active : operation.activePaymaster with
  | none => trivial
  | some paymaster =>
      refine .ofExcept_bind fun window timely => .ofExcept_bind fun packed packs => ?_
      obtain ⟨until_fits, after_fits⟩ := ValidityWindow.in_range_of_startingAt timely
      refine Dialogue.Asks.bind ⟨?_, .ofExcept⟩ fun hash => ?_
      · rintro _ _ _ ⟨⟩
        exact ⟨rfl, Outcome.mapError_eq_ok_iff.mp packs, Nat.lt_succ_of_le until_fits,
          Nat.lt_succ_of_le after_fits⟩
      · refine Dialogue.Asks.bind (.mapError ?_) fun signature => trivial
        exact ⟨nofun, .ofExcept⟩

/-- The entry point is asked about the packed operation without a signature. -/
theorem Draft.asks_sign_packed (draft : Draft .settled) :
    draft.sign.Asks fun request => ∀ packed, request = ServiceRequest.operationHash packed →
      { draft.operation with signature := [] }.pack = .ok packed := by
  unfold sign
  refine .ofExcept_bind fun packed packs => Dialogue.Asks.bind ⟨?_, .ofExcept⟩ fun hash => ?_
  · rintro _ ⟨⟩
    exact Outcome.mapError_eq_ok_iff.mp packs
  · refine Dialogue.Asks.bind (.mapError ?_) fun signature => trivial
    exact ⟨nofun, .ofExcept⟩

namespace Contracts

open Abi (Kind Value)

variable {contracts other : Contracts} {paymaster other_paymaster : Address}
  {operation other_operation : PackedOperation} {window other_window : ValidityWindow}

/-- The call that asks the entry point for the hash of an operation. -/
def operationHashCall (contracts : Contracts) (operation : PackedOperation) : ContractCall where
  target := contracts.entryPoint
  data := Abi.callData s!"getUserOpHash({packedOperationType})" [operation.toArgument]

/-- The call that asks a paymaster for the hash of an operation and a window. -/
def paymasterHashCall (paymaster : Address) (operation : PackedOperation)
    (window : ValidityWindow) : ContractCall where
  target := paymaster
  data := Abi.callData s!"getHash({packedOperationType},uint48,uint48)"
    [operation.toArgument, .ofUInt64 window.validUntil, .ofUInt64 window.validAfter]

/-- The signature asked for an operation's hash is the one written out for its type. -/
theorem signature_operationHash :
    Abi.signature "getUserOpHash" [PackedOperation.kind] =
      s!"getUserOpHash({packedOperationType})" := by
  decide +kernel

/-- The signature asked for a paymaster's hash is the one written out for the same type and two times.
-/
theorem signature_paymasterHash :
    Abi.signature "getHash" [PackedOperation.kind, .uint 48, .uint 48] =
      s!"getHash({packedOperationType},uint48,uint48)" := by
  decide +kernel

/-- The entry point reads the operation. -/
theorem decodeCall_operationHashCall (contracts : Contracts) (stored : operation.IsStored) :
    Abi.decodeCall "getUserOpHash" [PackedOperation.kind] (contracts.operationHashCall operation).data =
      some [operation.value] := by
  rw [operationHashCall, Abi.decodeCall_callData signature_operationHash]
  have reads := Abi.decode_encode [operation.value] ⟨operation.isNarrow_value, trivial⟩
    (stored.length_encode_lt [] (by decide)) []
  rwa [List.append_nil] at reads

/-- What is read of a call for an operation and a window, when the bounds may have a number of bits. -/
theorem decode_paymasterHashCall (stored : operation.IsStored) (width : Nat) :
    Abi.decode [PackedOperation.kind, .uint width, .uint width]
        (Abi.encode [operation.toArgument, .ofUInt64 window.validUntil, .ofUInt64 window.validAfter]) =
      if window.validUntil.toNat < 2 ^ width ∧ window.validAfter.toNat < 2 ^ width then
        some [operation.value, .number width window.validUntil.toNat,
          .number width window.validAfter.toNat]
      else none := by
  -- As words the bounds are read whatever they are.
  have reads := Abi.decode_encode
    [operation.value, .word (.ofUInt64 window.validUntil), .word (.ofUInt64 window.validAfter)]
    ⟨operation.isNarrow_value, trivial, trivial, trivial⟩
    (stored.length_encode_lt [.ofUInt64 window.validUntil, .ofUInt64 window.validAfter]
      (Nat.le_refl 2)) []
  rw [List.append_nil] at reads
  obtain ⟨read, words⟩ := Abi.readAll_cons_eq_some_iff.mp reads
  obtain ⟨until_word, words⟩ := Abi.readAll_cons_eq_some_iff.mp words
  obtain ⟨after_word, -⟩ := Abi.readAll_cons_eq_some_iff.mp words
  have until_number := Abi.read_uint_of_wordAt (Abi.read_bytes32_eq_some_iff.mp until_word) width
  have after_number := Abi.read_uint_of_wordAt (Abi.read_bytes32_eq_some_iff.mp after_word) width
  rw [Word.toNat_ofUInt64] at until_number after_number
  let frame := Abi.encode (Value.arguments
    [operation.value, .word (.ofUInt64 window.validUntil), .word (.ofUInt64 window.validAfter)])
  have read : PackedOperation.kind.read frame 0 = some operation.value := read
  have until_read : (Kind.uint width).read frame (0 + PackedOperation.kind.headSize) = _ :=
    until_number
  have after_read : (Kind.uint width).read frame
    (0 + PackedOperation.kind.headSize + (Kind.uint width).headSize) = _ := after_number
  change Kind.readAll [PackedOperation.kind, .uint width, .uint width] frame 0 = _
  simp only [Kind.readAll, read, until_read, after_read, Option.bind_eq_bind, Option.bind_some]
  by_cases until_fits : window.validUntil.toNat < 2 ^ width
  · by_cases after_fits : window.validAfter.toNat < 2 ^ width
    · simp [until_fits, after_fits]
    · simp [until_fits, after_fits]
  · simp [until_fits]

/-- A paymaster reads the operation and the bounds, if these are as narrow as it declares. -/
theorem decodeCall_paymasterHashCall (stored : operation.IsStored) :
    Abi.decodeCall "getHash" [PackedOperation.kind, .uint 48, .uint 48]
        (paymasterHashCall paymaster operation window).data =
      if window.validUntil.toNat < 2 ^ 48 ∧ window.validAfter.toNat < 2 ^ 48 then
        some [operation.value, .number 48 window.validUntil.toNat,
          .number 48 window.validAfter.toNat]
      else none := by
  rw [paymasterHashCall, Abi.decodeCall_callData signature_paymasterHash]
  exact decode_paymasterHashCall stored 48

/-- With bounds of 64 bits every window is read back. -/
theorem decode_paymasterHashCall_data (paymaster : Address) (window : ValidityWindow)
    (stored : operation.IsStored) :
    Abi.decode [PackedOperation.kind, .uint 64, .uint 64]
        ((paymasterHashCall paymaster operation window).data.drop 4) =
      some [operation.value, .number 64 window.validUntil.toNat,
        .number 64 window.validAfter.toNat] := by
  have behind : (paymasterHashCall paymaster operation window).data.drop 4 = Abi.encode
      [operation.toArgument, .ofUInt64 window.validUntil, .ofUInt64 window.validAfter] :=
    List.drop_left' (Abi.length_selector _)
  rw [behind, decode_paymasterHashCall stored 64]
  exact if_pos ⟨window.validUntil.toNat_lt, window.validAfter.toNat_lt⟩

/-- An operation is known by what the entry point is asked about it. -/
theorem operationHashCall_inj (stored : operation.IsStored) (other_stored : other_operation.IsStored) :
    (contracts.operationHashCall operation).data = (other.operationHashCall other_operation).data ↔
      operation = other_operation := by
  constructor
  · intro same
    have reads := decodeCall_operationHashCall contracts stored
    rw [same, decodeCall_operationHashCall other other_stored] at reads
    obtain ⟨alike, -⟩ := List.cons.inj (Option.some.inj reads)
    exact (PackedOperation.value_inj.mp alike).symm
  · rintro rfl
    rfl

/-- An operation and a window are known by what a paymaster is asked about them. -/
theorem paymasterHashCall_inj (stored : operation.IsStored) (other_stored : other_operation.IsStored) :
    (paymasterHashCall paymaster operation window).data =
        (paymasterHashCall other_paymaster other_operation other_window).data ↔
      operation = other_operation ∧ window = other_window := by
  constructor
  · intro same
    have reads := decode_paymasterHashCall_data paymaster window stored
    rw [same, decode_paymasterHashCall_data _ _ other_stored] at reads
    simp only [Option.some.injEq, List.cons.injEq, Value.number.injEq, true_and, and_true,
      PackedOperation.value_inj, UInt64.toNat_inj] at reads
    obtain ⟨alike, until_same, after_same⟩ := reads
    refine ⟨alike.symm, ?_⟩
    cases window
    cases other_window
    cases until_same
    cases after_same
    rfl
  · rintro ⟨rfl, rfl⟩
    rfl

/-- **The contracts are asked about what was packed.** The entry point and a paymaster are asked by one
call. Its data are read by the declared types as the members of the operation, in the order of their
declaration, and then as the bounds of the window if these have the declared 48 bits; those of an
authorization do, and with 64 bits every window is read back. So different operations and different
windows are asked about with different data. -/
theorem asked_about_what_was_packed :
    (∀ (contracts : Contracts) operation exchanges outcome,
      (contracts.operationHash operation).Ends exchanges outcome →
        exchanges.map (·.request) = [.query (.call {
          target := contracts.entryPoint
          data := (contracts.operationHashCall operation).data })]) ∧
    (∀ paymaster operation window exchanges outcome,
      (paymasterHash paymaster operation window).Ends exchanges outcome →
        exchanges.map (·.request) = [.query (.call {
          target := paymaster
          data := (paymasterHashCall paymaster operation window).data })]) ∧
    (∀ operation : PackedOperation,
      (operation.members.map fun (name, value) => (name, value.kind)) =
        PackedOperation.components) ∧
    (∀ (contracts : Contracts) (operation : PackedOperation), operation.IsStored →
      Abi.decodeCall "getUserOpHash" [.tuple (PackedOperation.components.map (·.2))]
          (contracts.operationHashCall operation).data =
        some [.tuple (operation.members.map (·.2))]) ∧
    (∀ paymaster (operation : PackedOperation) window, operation.IsStored →
      Abi.decodeCall "getHash" [.tuple (PackedOperation.components.map (·.2)), .uint 48, .uint 48]
          (paymasterHashCall paymaster operation window).data =
        (if window.validUntil.toNat < 2 ^ 48 ∧ window.validAfter.toNat < 2 ^ 48 then
          some [.tuple (operation.members.map (·.2)), .number 48 window.validUntil.toNat,
            .number 48 window.validAfter.toNat]
        else none) ∧
      Abi.decode [.tuple (PackedOperation.components.map (·.2)), .uint 64, .uint 64]
          ((paymasterHashCall paymaster operation window).data.drop 4) =
        some [.tuple (operation.members.map (·.2)), .number 64 window.validUntil.toNat,
          .number 64 window.validAfter.toNat]) ∧
    (∀ (draft : Draft .settled), draft.sign.Asks fun request => ∀ packed,
      request = ServiceRequest.operationHash packed →
        { draft.operation with signature := [] }.pack = .ok packed) ∧
    (∀ validity now operation, (Authorization.authorize validity now operation).Asks fun request =>
      ∀ paymaster packed window, request = ServiceRequest.paymasterHash paymaster packed window →
        operation.activePaymaster = some paymaster ∧ operation.pack = .ok packed ∧
          window.validUntil.toNat < 2 ^ 48 ∧ window.validAfter.toNat < 2 ^ 48) ∧
    (∀ (contracts other : Contracts) (operation other_operation : PackedOperation),
      operation.IsStored → other_operation.IsStored →
        ((contracts.operationHashCall operation).data =
            (other.operationHashCall other_operation).data ↔ operation = other_operation)) ∧
    ∀ paymaster other_paymaster (operation other_operation : PackedOperation) window other_window,
      operation.IsStored → other_operation.IsStored →
        ((paymasterHashCall paymaster operation window).data =
            (paymasterHashCall other_paymaster other_operation other_window).data ↔
          operation = other_operation ∧ window = other_window) :=
  ⟨fun _ _ _ _ => ChainNode.requests_of_lookUp, fun _ _ _ _ _ => ChainNode.requests_of_lookUp,
    PackedOperation.kinds_members, fun _ _ => decodeCall_operationHashCall _,
    fun _ _ _ stored => ⟨decodeCall_paymasterHashCall stored, decode_paymasterHashCall_data _ _ stored⟩,
    Draft.asks_sign_packed, Authorization.asks_authorize_packed,
    fun _ _ _ _ => operationHashCall_inj, fun _ _ _ _ _ _ => paymasterHashCall_inj⟩

/-- An operation with byte strings of several lengths, two of them empty. -/
def askedOperation : PackedOperation where
  sender := .filled 20 0x5e
  nonce := 7
  initCode := []
  callData := List.replicate 33 0xca
  accountGasLimits := .filled 32 0x01
  preVerificationGas := 21000
  gasFees := .filled 32 0x02
  paymasterAndData := List.replicate 52 0xaa
  signature := []

/-- The question for a sponsored operation reads back as it was packed, and another signature makes
another question. -/
theorem asked_about_what_was_packed_once :
    let other := { askedOperation with signature := [0] }
    let window : ValidityWindow := ⟨3600, 0⟩
    askedOperation.IsStored ∧ other.IsStored ∧
    (∃ exchanges outcome, (paymasterHash (.filled 20 0xaa) askedOperation window).Ends exchanges outcome ∧
      exchanges.map (·.request) = [.query (.call {
        target := .filled 20 0xaa
        data := (paymasterHashCall (.filled 20 0xaa) askedOperation window).data })]) ∧
    Abi.decodeCall "getHash" [.tuple (PackedOperation.components.map (·.2)), .uint 48, .uint 48]
        (paymasterHashCall (.filled 20 0xaa) askedOperation window).data =
      some [.tuple (askedOperation.members.map (·.2)), .number 48 3600, .number 48 0] ∧
    (paymasterHashCall (.filled 20 0xaa) askedOperation window).data ≠
      (paymasterHashCall (.filled 20 0xaa) other window).data := by
  intro other window
  have stored : askedOperation.IsStored := ⟨by decide, by decide, by decide, by decide⟩
  have other_stored : other.IsStored := ⟨by decide, by decide, by decide, by decide⟩
  obtain ⟨-, asks, -, -, reads, -, -, -, known⟩ := asked_about_what_was_packed
  have answered : Word.ofReply? (.string (Octets.filled 32 0xab).toText) = some (.filled 32 0xab) := by
    decide
  have ends : (paymasterHash (.filled 20 0xaa) askedOperation window).Ends _
      (.ok (.filled 32 0xab)) := ChainNode.ends_lookUp_iff.mpr ⟨_, answered, rfl⟩
  refine ⟨stored, other_stored, ⟨_, _, ends, asks _ _ _ _ _ ends⟩,
    (reads _ askedOperation window stored).1, fun same => ?_⟩
  obtain ⟨alike, -⟩ := (known _ _ askedOperation other window window stored other_stored).mp same
  exact absurd (congrArg PackedOperation.signature alike) (by decide)

end Contracts

end AccountRelay
