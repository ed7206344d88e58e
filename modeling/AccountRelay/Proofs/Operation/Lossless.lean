import AccountRelay.Proofs.Operation.Normal

/-! # Packing loses nothing

The numbers that share words are packed in a fixed order (`Operation.sharedNumbers`), and the first
of them that needs more than half a word is the fault that packing ends with
(`Operation.error?_pack`). When there is none, the packed form holds the factory and the paymaster
at fixed places (`Operation.holds_of_pack`), and two operations have one packed form exactly when
they have one normal form (`Operation.pack_lossless`).
-/

namespace AccountRelay

open Outcome (error? error?_bind)

namespace Operation

/-- The numbers of an operation that share words, in the order in which they are packed. The gas of
a paymaster is among them only when there is a paymaster that pays. -/
def sharedNumbers (operation : Operation) : List Labelled :=
  [⟨"verificationGasLimit", operation.gas.verification⟩, ⟨"callGasLimit", operation.gas.call⟩] ++
    [⟨"maxPriorityFeePerGas", operation.fees.priority⟩, ⟨"maxFeePerGas", operation.fees.max⟩] ++
    if operation.activePaymaster.isSome then
      [⟨"paymasterVerificationGasLimit", operation.paymasterGas.verification⟩,
        ⟨"paymasterPostOpGasLimit", operation.paymasterGas.postOp⟩]
    else []

/-- Of the paymaster's two limits the first that is too wide is the error, if there is an active
paymaster. -/
theorem error?_paymasterAndData (operation : Operation) :
    error? operation.paymasterAndData =
      (if operation.activePaymaster.isSome then
        [⟨"paymasterVerificationGasLimit", operation.paymasterGas.verification⟩,
          ⟨"paymasterPostOpGasLimit", operation.paymasterGas.postOp⟩]
      else []).findSome? Labelled.tooWide? := by
  unfold paymasterAndData
  cases operation.activePaymaster with
  | none => rfl
  | some paymaster =>
      have limits : error? operation.paymasterLimits = _ := Word.error?_ofHalves _ _
      have bytes : error? (do
          let limits ← operation.paymasterLimits
          return paymaster.toList ++ limits.toList ++ operation.paymasterData) =
            (error? operation.paymasterLimits).or none :=
        error?_bind fun _ _ => rfl
      exact bytes.trans (Option.or_none.trans limits)

/-- **What packing fails with** is the first number that is too wide. -/
theorem error?_pack (operation : Operation) :
    error? operation.pack = operation.sharedNumbers.findSome? Labelled.tooWide? := by
  have limits : error? operation.accountGasLimits = _ := Word.error?_ofHalves _ _
  have prices : error? operation.gasFees = _ := Word.error?_ofHalves _ _
  have parts : error? operation.pack = (error? operation.accountGasLimits).or
      ((error? operation.gasFees).or ((error? operation.paymasterAndData).or none)) :=
    error?_bind fun _ _ => error?_bind fun _ _ => error?_bind fun _ _ => rfl
  rw [parts, limits, prices, error?_paymasterAndData, sharedNumbers, List.findSome?_append,
    List.findSome?_append, Option.or_none, Option.or_assoc]

/-- What a packed form holds of an operation, and where. -/
structure Holds (packed : PackedOperation) (operation : Operation) : Prop where
  verification : packed.accountGasLimits.high = operation.gas.verification.toNat
  call : packed.accountGasLimits.low = operation.gas.call.toNat
  priority : packed.gasFees.high = operation.fees.priority.toNat
  max : packed.gasFees.low = operation.fees.max.toNat
  /-- The zero address is a factory, too. -/
  undeployable : packed.initCode = [] ↔ operation.factory = none
  deployable : ∀ factory, operation.factory = some factory →
    packed.initCode.take 20 = factory.toList ∧ packed.initCode.drop 20 = operation.factoryData
  unsponsored : operation.activePaymaster = none → packed.paymasterAndData = []
  sponsored : ∀ paymaster, operation.activePaymaster = some paymaster →
    52 ≤ packed.paymasterAndData.length ∧
    packed.paymasterAndData.take 20 = paymaster.toList ∧
    BigEndian.decode ((packed.paymasterAndData.drop 20).take 16) =
      operation.paymasterGas.verification.toNat ∧
    BigEndian.decode ((packed.paymasterAndData.drop 36).take 16) =
      operation.paymasterGas.postOp.toNat ∧
    packed.paymasterAndData.drop 52 = operation.paymasterData

variable {operation : Operation} {packed : PackedOperation}

/-- There is no init code exactly when there is no factory. -/
theorem initCode_eq_nil_iff : operation.initCode = [] ↔ operation.factory = none := by
  unfold initCode
  cases operation.factory with
  | none => simp
  | some factory => simpa using address_append_ne_nil factory operation.factoryData

/-- The bytes of a paymaster and its limits come before its data, each in its place. -/
theorem paymaster_places {paymaster : Address} {limits : Word}
    (computed : operation.paymasterLimits = .ok limits) (data : Bytes) :
    let bytes := paymaster.toList ++ limits.toList ++ data
    52 ≤ bytes.length ∧ bytes.take 20 = paymaster.toList ∧
      BigEndian.decode ((bytes.drop 20).take 16) = operation.paymasterGas.verification.toNat ∧
      BigEndian.decode ((bytes.drop 36).take 16) = operation.paymasterGas.postOp.toNat ∧
      bytes.drop 52 = data := by
  intro bytes
  have front := length_paymaster_append_limits paymaster limits
  have nested : bytes = paymaster.toList ++ (limits.toList ++ data) := List.append_assoc ..
  have behind : bytes.drop 20 = limits.toList ++ data := by
    rw [nested, List.drop_left' paymaster.length_eq]
  have upper : (limits.toList ++ data).take 16 = limits.toList.take 16 :=
    List.take_append_of_le_length (by rw [limits.length_eq]; decide)
  have lower : (bytes.drop 36).take 16 = limits.toList.drop 16 := by
    have split : bytes.drop 36 = limits.toList.drop 16 ++ data := by
      rw [← List.drop_append_of_le_length (by rw [limits.length_eq]; decide), ← behind,
        List.drop_drop]
    have sixteen : (limits.toList.drop 16).length = 16 := by
      rw [List.length_drop, limits.length_eq]
    rw [split, List.take_left' sixteen]
  refine ⟨?_, ?_, ?_, ?_, List.drop_left' front⟩
  · rw [List.length_append, front]
    exact Nat.le_add_right _ _
  · rw [nested, List.take_left' paymaster.length_eq]
  · rw [behind, upper]
    exact Word.high_of_ofHalves computed
  · rw [lower]
    exact Word.low_of_ofHalves computed

/-- A packed operation holds every field of the operation at its place. -/
theorem holds_of_pack (packs : operation.pack = .ok packed) : Holds packed operation := by
  obtain ⟨limits, prices, data, limits_packed, prices_packed, data_packed, rfl⟩ :=
    pack_eq_ok_iff.mp packs
  exact {
    verification := Word.high_of_ofHalves limits_packed
    call := Word.low_of_ofHalves limits_packed
    priority := Word.high_of_ofHalves prices_packed
    max := Word.low_of_ofHalves prices_packed
    undeployable := initCode_eq_nil_iff
    deployable := by
      intro factory set
      have code : operation.initCode = factory.toList ++ operation.factoryData := by
        simp only [initCode, set]
      change operation.initCode.take 20 = _ ∧ operation.initCode.drop 20 = _
      rw [code]
      exact ⟨List.take_left' factory.length_eq, List.drop_left' factory.length_eq⟩
    unsponsored := fun idle => paymasterAndData_eq_nil packs idle
    sponsored := by
      intro paymaster active
      rcases paymasterAndData_eq_ok_iff.mp data_packed with
        ⟨idle, -⟩ | ⟨other, word, same, computed, rfl⟩
      · rw [idle] at active
        cases active
      · rw [active] at same
        cases same
        exact paymaster_places computed operation.paymasterData }

/-- An operation that packs shares its packed form with those of its normal form, and no others. -/
theorem pack_eq_pack_iff (packs : operation.pack = .ok packed) (other : Operation) :
    other.pack = operation.pack ↔ other.normal = operation.normal := by
  constructor
  · intro same
    exact normal_eq_of_pack (same.trans packs) packs
  · intro same
    rw [← other.pack_normal, same, operation.pack_normal]

/-- **Packing is lossless.** It fails exactly with the first of the shared numbers that is too wide,
and so succeeds exactly when all of them are below `2 ^ 128`. The packed form holds the parts of an
operation at fixed places. Other operations have it exactly when they have the same normal form, so
they have the same factory then, or none. -/
theorem pack_lossless (operation : Operation) :
    (∀ fault, operation.pack = .error fault ↔
      operation.sharedNumbers.findSome? Labelled.tooWide? = some fault) ∧
    ((∃ packed, operation.pack = .ok packed) ↔
      ∀ number ∈ operation.sharedNumbers, number.value.toNat < 2 ^ 128) ∧
    ∀ packed, operation.pack = .ok packed → Holds packed operation ∧
      ∀ other : Operation, (other.pack = operation.pack ↔ other.normal = operation.normal) ∧
        (other.pack = operation.pack → other.factory = operation.factory) := by
  refine ⟨?_, ?_, ?_⟩
  · intro fault
    rw [← error?_pack, Outcome.error?_eq_some_iff]
  · rw [← Outcome.error?_eq_none_iff, error?_pack, List.findSome?_eq_none_iff]
    simp only [Labelled.tooWide?_eq_none_iff]
  · intro packed packs
    refine ⟨holds_of_pack packs, ?_⟩
    intro other
    have same_form := pack_eq_pack_iff packs other
    refine ⟨same_form, ?_⟩
    intro same
    have factories : other.normal.factory = operation.normal.factory := by
      rw [same_form.mp same]
    exact factories

end Operation

end AccountRelay
