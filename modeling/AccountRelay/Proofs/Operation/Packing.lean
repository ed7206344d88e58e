import AccountRelay.LocalNet
import AccountRelay.Proofs.Outcome
import AccountRelay.Proofs.Uint256.Halves

/-! # Packing operations

An operation packs exactly when the numbers that share a word are small enough
(`Operation.exists_pack_iff`). Its packed form is put together of parts that do not depend on each
other (`Operation.pack_eq_ok_iff`), so the signature changes nothing else, and the data of the
paymaster only the last bytes (`Operation.pack_withData`). Neither of them is part of what the paymaster
signs (`Operation.sponsoredHash_paymasterData`).
-/

namespace AccountRelay

/-- An operation of which all numbers that share a word are small enough. -/
structure Operation.FitsHalves (operation : Operation) : Prop where
  verification : operation.gas.verification.toNat < halfWordSize
  call : operation.gas.call.toNat < halfWordSize
  priority : operation.fees.priority.toNat < halfWordSize
  max : operation.fees.max.toNat < halfWordSize
  paymaster : ∀ paymaster, operation.activePaymaster = some paymaster →
    operation.paymasterGas.verification.toNat < halfWordSize ∧
      operation.paymasterGas.postOp.toNat < halfWordSize

/-- Neither the data of a paymaster nor a signature share a word with anything. -/
theorem Operation.FitsHalves.of_settled {operation : Operation} (fits : operation.FitsHalves)
    (data signature : Bytes) :
    { operation with paymasterData := data, signature }.FitsHalves where
  verification := fits.verification
  call := fits.call
  priority := fits.priority
  max := fits.max
  paymaster := fits.paymaster

namespace Operation

variable {operation : Operation}

/-- The paymaster's data can be packed exactly when there is no active paymaster, or its two limits fit
into half words. -/
theorem exists_paymasterAndData_iff :
    (∃ data, operation.paymasterAndData = .ok data) ↔
      ∀ paymaster, operation.activePaymaster = some paymaster →
        operation.paymasterGas.verification.toNat < halfWordSize ∧
          operation.paymasterGas.postOp.toNat < halfWordSize := by
  have limits : (∃ word, operation.paymasterLimits = .ok word) ↔ _ :=
    Word.exists_ofHalves_iff _ _
  unfold paymasterAndData
  cases active : operation.activePaymaster with
  | none => simp
  | some paymaster =>
      simp only [Option.some.injEq, forall_eq']
      rw [← limits]
      cases operation.paymasterLimits with
      | ok word => simp [Bind.bind, Except.bind, Pure.pure, Except.pure]
      | error error => simp [Bind.bind, Except.bind]

/-- A paymaster and its limits take up the bytes in front of its data. -/
theorem length_paymaster_append_limits (paymaster : Address) (limits : Word) :
    (paymaster.toList ++ limits.toList).length = paymasterDataOffset := by
  rw [List.length_append, paymaster.length_eq, limits.length_eq]
  rfl

/-- What the packed form holds of a paymaster. -/
theorem paymasterAndData_eq_ok_iff {data : Bytes} :
    operation.paymasterAndData = .ok data ↔
      operation.activePaymaster = none ∧ data = [] ∨
      ∃ paymaster limits, operation.activePaymaster = some paymaster ∧
        operation.paymasterLimits = .ok limits ∧
        data = paymaster.toList ++ limits.toList ++ operation.paymasterData := by
  unfold paymasterAndData
  cases active : operation.activePaymaster with
  | none => simp [eq_comm]
  | some paymaster =>
      simp only [Outcome.bind_eq_ok_iff, Outcome.pure_eq_ok_iff]
      constructor
      · rintro ⟨limits, computed, rfl⟩
        exact .inr ⟨paymaster, limits, rfl, computed, rfl⟩
      · rintro (⟨absent, -⟩ | ⟨other, limits, same, computed, rfl⟩)
        · cases absent
        · cases same
          exact ⟨limits, computed, rfl⟩

/-- The packed form of an operation, given its packed parts. -/
def packedWith (operation : Operation) (accountGasLimits gasFees : Word)
    (paymasterAndData : Bytes) : PackedOperation where
  sender := operation.sender
  nonce := operation.nonce
  initCode := operation.initCode
  callData := operation.callData
  accountGasLimits := accountGasLimits
  preVerificationGas := operation.gas.preVerification
  gasFees := gasFees
  paymasterAndData := paymasterAndData
  signature := operation.signature

/-- An operation packs exactly when each of its three packed fields does, and then to these. -/
theorem pack_eq_ok_iff {packed : PackedOperation} :
    operation.pack = .ok packed ↔
      ∃ accountGasLimits gasFees paymasterAndData,
        operation.accountGasLimits = .ok accountGasLimits ∧ operation.gasFees = .ok gasFees ∧
        operation.paymasterAndData = .ok paymasterAndData ∧
        operation.packedWith accountGasLimits gasFees paymasterAndData = packed := by
  unfold pack packedWith
  simp only [Outcome.bind_eq_ok_iff, Outcome.pure_eq_ok_iff]
  constructor
  · rintro ⟨_, one, _, two, _, three, rfl⟩
    exact ⟨_, _, _, one, two, three, rfl⟩
  · rintro ⟨_, _, _, one, two, three, rfl⟩
    exact ⟨_, one, _, two, _, three, rfl⟩

/-- An operation packs exactly when its halves of words fit. -/
theorem exists_pack_iff : (∃ packed, operation.pack = .ok packed) ↔ operation.FitsHalves := by
  have account : (∃ word, operation.accountGasLimits = .ok word) ↔ _ :=
    Word.exists_ofHalves_iff _ _
  have fees : (∃ word, operation.gasFees = .ok word) ↔ _ := Word.exists_ofHalves_iff _ _
  constructor
  · rintro ⟨packed, packs⟩
    obtain ⟨_, _, _, one, two, three, -⟩ := pack_eq_ok_iff.mp packs
    have limits := account.mp ⟨_, one⟩
    have prices := fees.mp ⟨_, two⟩
    exact ⟨limits.1, limits.2, prices.1, prices.2, exists_paymasterAndData_iff.mp ⟨_, three⟩⟩
  · intro fits
    obtain ⟨accountGasLimits, one⟩ := account.mpr ⟨fits.verification, fits.call⟩
    obtain ⟨gasFees, two⟩ := fees.mpr ⟨fits.priority, fits.max⟩
    obtain ⟨paymasterAndData, three⟩ := exists_paymasterAndData_iff.mpr fits.paymaster
    exact ⟨_, pack_eq_ok_iff.mpr ⟨_, _, _, one, two, three, rfl⟩⟩

/-- The packed operation carries the paymaster's data that was packed. -/
theorem paymasterAndData_of_pack {packed : PackedOperation} (packs : operation.pack = .ok packed) :
    operation.paymasterAndData = .ok packed.paymasterAndData := by
  obtain ⟨_, _, _, -, -, computed, rfl⟩ := pack_eq_ok_iff.mp packs
  exact computed

/-- Without a paymaster the packed form holds nothing of one. -/
theorem paymasterAndData_eq_nil {packed : PackedOperation} (packs : operation.pack = .ok packed)
    (idle : operation.activePaymaster = none) : packed.paymasterAndData = [] := by
  rcases paymasterAndData_eq_ok_iff.mp (paymasterAndData_of_pack packs) with
    ⟨-, empty⟩ | ⟨paymaster, limits, active, -, -⟩
  · exact empty
  · rw [idle] at active
    cases active

/-- The paymaster's own data come last in the packed form. -/
theorem drop_paymasterAndData {paymaster : Address} {packed : PackedOperation}
    (packs : operation.pack = .ok packed) (active : operation.activePaymaster = some paymaster) :
    packed.paymasterAndData.drop paymasterDataOffset = operation.paymasterData := by
  rcases paymasterAndData_eq_ok_iff.mp (paymasterAndData_of_pack packs) with
    ⟨idle, -⟩ | ⟨other, limits, -, -, bytes⟩
  · rw [idle] at active
    cases active
  · rw [bytes, List.drop_left' (length_paymaster_append_limits other limits)]

/-- The packed form has room for the paymaster and its gas in front of the paymaster's own data. -/
theorem le_length_paymasterAndData {paymaster : Address} {packed : PackedOperation}
    (active : operation.activePaymaster = some paymaster) (packs : operation.pack = .ok packed) :
    paymasterDataOffset ≤ packed.paymasterAndData.length := by
  rcases paymasterAndData_eq_ok_iff.mp (paymasterAndData_of_pack packs) with
    ⟨idle, -⟩ | ⟨other, limits, -, -, bytes⟩
  · rw [idle] at active
    cases active
  · rw [bytes, List.length_append, length_paymaster_append_limits]
    exact Nat.le_add_right _ _

/-- An operation packs with any signature. -/
theorem pack_signature {packed : PackedOperation} (packs : operation.pack = .ok packed)
    (signature : Bytes) :
    { operation with signature }.pack = .ok { packed with signature } := by
  obtain ⟨_, _, _, one, two, three, rfl⟩ := pack_eq_ok_iff.mp packs
  exact pack_eq_ok_iff.mpr ⟨_, _, _, one, two, three, rfl⟩

/-- The hash of an operation does not cover its signature. -/
theorem hash_signature (packed : PackedOperation) (signature : Bytes) (entryPoint : Address)
    (chainId : UInt64) :
    { packed with signature }.hash entryPoint chainId = packed.hash entryPoint chainId := by
  simp only [PackedOperation.hash, PackedOperation.summary]

/-- With an active paymaster, other data from it stands behind the same paymaster and limits. -/
theorem paymasterAndData_withData {paymaster : Address}
    (active : operation.activePaymaster = some paymaster) (data : Bytes) :
    { operation with paymasterData := data }.paymasterAndData =
      operation.paymasterAndData.map fun own => own.take paymasterDataOffset ++ data := by
  have limits : { operation with paymasterData := data }.paymasterLimits =
      operation.paymasterLimits :=
    rfl
  have still : { operation with paymasterData := data }.activePaymaster = some paymaster := active
  unfold paymasterAndData
  rw [active, still, limits]
  cases operation.paymasterLimits with
  | error fault => rfl
  | ok word =>
      have length := length_paymaster_append_limits paymaster word
      change Except.ok (paymaster.toList ++ word.toList ++ data) =
        Except.ok (List.take _ (_ ++ _) ++ data)
      rw [List.take_left' length]

/-- With other data of the paymaster an operation packs as it did, and only its last bytes change. -/
theorem pack_withData {paymaster : Address}
    (active : operation.activePaymaster = some paymaster) (data : Bytes) :
    { operation with paymasterData := data }.pack = operation.pack.map fun packed =>
      { packed with
        paymasterAndData := packed.paymasterAndData.take paymasterDataOffset ++ data } := by
  have limits : { operation with paymasterData := data }.accountGasLimits =
      operation.accountGasLimits :=
    rfl
  have fees : { operation with paymasterData := data }.gasFees = operation.gasFees := rfl
  unfold pack
  rw [limits, fees, paymasterAndData_withData active]
  cases operation.accountGasLimits with
  | error fault => rfl
  | ok word =>
      cases operation.gasFees with
      | error fault => rfl
      | ok prices =>
          cases operation.paymasterAndData with
          | error fault => rfl
          | ok own => rfl

/-- What a paymaster signs does not depend on the data that stand in for its authorization. -/
theorem sponsoredHash_paymasterData {paymaster : Address} {packed : PackedOperation}
    (active : operation.activePaymaster = some paymaster) (packs : operation.pack = .ok packed)
    (data : Bytes) :
    ∃ bare, { operation with paymasterData := data }.pack = .ok bare ∧
      ∀ window, LocalNet.sponsoredHash paymaster bare window =
        LocalNet.sponsoredHash paymaster packed window := by
  refine ⟨_, (pack_withData active data).trans (congrArg _ packs), ?_⟩
  intro window
  have cut : (packed.paymasterAndData.take paymasterDataOffset).length = paymasterDataOffset :=
    List.length_take_of_le (le_length_paymasterAndData active packs)
  simp only [LocalNet.sponsoredHash]
  rw [List.take_left' cut]

end Operation

end AccountRelay
