import AccountRelay.Operation.Body
import AccountRelay.Proofs.Operation.Packing
import AccountRelay.Proofs.Uint256.Halves

/-! # Normal forms of operations

Two operations can differ in fields that count for nothing: the data for a factory that is not
there, and all that belongs to a paymaster that is not there or zero. The normal form clears these
fields. It packs like the operation itself (`Operation.pack_normal`), and the packed form tells
which normal form it is of (`Operation.normal_eq_of_pack`).
-/

namespace AccountRelay.Operation

/-- The operation with the fields cleared that count for nothing. -/
def normal (operation : Operation) : Operation :=
  { operation with
    factoryData := if operation.factory.isSome then operation.factoryData else []
    paymaster := operation.activePaymaster
    paymasterGas := if operation.activePaymaster.isSome then operation.paymasterGas else ⟨0, 0⟩
    paymasterData := if operation.activePaymaster.isSome then operation.paymasterData else [] }

variable (operation : Operation)

/-- The normal form has the same active paymaster. -/
@[simp] theorem activePaymaster_normal :
    operation.normal.activePaymaster = operation.activePaymaster := by
  simp only [normal, activePaymaster, Option.filter_filter, Bool.and_self]

/-- The normal form has the same init code. -/
@[simp] theorem initCode_normal : operation.normal.initCode = operation.initCode := by
  cases factory : operation.factory with
  | none => simp [initCode, normal, factory]
  | some factory => simp [initCode, normal, factory]

/-- The normal form has the same paymaster's data, packed. -/
@[simp] theorem paymasterAndData_normal :
    operation.normal.paymasterAndData = operation.paymasterAndData := by
  unfold paymasterAndData
  rw [activePaymaster_normal]
  cases active : operation.activePaymaster with
  | none => rfl
  | some paymaster => simp [paymasterLimits, normal, active]

/-- The normal form packs like the operation: into the same form, or with the same fault. -/
theorem pack_normal : operation.normal.pack = operation.pack := by
  unfold pack
  rw [paymasterAndData_normal, initCode_normal]
  rfl

/-- The object that is sent shows none of the fields that count for nothing. -/
theorem toSendBody_normal : operation.normal.toSendBody = operation.toSendBody := by
  have call : operation.normal.callMembers = operation.callMembers := by
    cases factory : operation.factory with
    | none => simp [callMembers, normal, factory]
    | some factory => simp [callMembers, normal, factory]
  have paymaster : operation.normal.paymasterMembers = operation.paymasterMembers := by
    unfold paymasterMembers
    rw [activePaymaster_normal]
    cases active : operation.activePaymaster with
    | none => rfl
    | some paymaster => simp [normal, active]
  rw [toSendBody, call, paymaster]
  rfl

/-! ## Unpacking -/

variable {first second : Operation}

/-- Bytes that begin with an address are not empty. -/
theorem address_append_ne_nil (address : Address) (rest : Bytes) : address.toList ++ rest ≠ [] := by
  intro empty
  have length := congrArg List.length empty
  rw [List.length_append, address.length_eq, List.length_nil] at length
  omega

/-- The factory and its data are known by their packed form. -/
theorem factory_eq_of_initCode (same : first.initCode = second.initCode) :
    first.factory = second.factory ∧ first.normal.factoryData = second.normal.factoryData := by
  unfold initCode at same
  simp only [normal]
  cases one : first.factory with
  | none =>
      cases two : second.factory with
      | none => exact ⟨rfl, rfl⟩
      | some other =>
          rw [one, two] at same
          exact absurd same.symm (address_append_ne_nil other _)
  | some factory =>
      cases two : second.factory with
      | none =>
          rw [one, two] at same
          exact absurd same (address_append_ne_nil factory _)
      | some other =>
          rw [one, two] at same
          obtain ⟨addresses, data⟩ :=
            List.append_inj same (factory.length_eq.trans other.length_eq.symm)
          rw [Octets.toList_injective addresses]
          exact ⟨rfl, data⟩

/-- The paymaster, its gas and its data are known by their packed form. -/
theorem paymaster_eq_of_paymasterAndData {data : Bytes}
    (one : first.paymasterAndData = .ok data) (two : second.paymasterAndData = .ok data) :
    first.activePaymaster = second.activePaymaster ∧
      first.normal.paymasterGas = second.normal.paymasterGas ∧
      first.normal.paymasterData = second.normal.paymasterData := by
  simp only [normal]
  rcases paymasterAndData_eq_ok_iff.mp one with
    ⟨absent, rfl⟩ | ⟨paymaster, limits, active, computed, rfl⟩
  · rcases paymasterAndData_eq_ok_iff.mp two with
      ⟨absent', -⟩ | ⟨paymaster', limits', -, -, empty⟩
    · rw [absent, absent']
      exact ⟨rfl, rfl, rfl⟩
    · rw [List.append_assoc] at empty
      exact absurd empty.symm (address_append_ne_nil paymaster' _)
  · rcases paymasterAndData_eq_ok_iff.mp two with
      ⟨-, empty⟩ | ⟨paymaster', limits', active', computed', same⟩
    · rw [List.append_assoc] at empty
      exact absurd empty (address_append_ne_nil paymaster _)
    · rw [List.append_assoc, List.append_assoc] at same
      obtain ⟨addresses, behind⟩ :=
        List.append_inj same (paymaster.length_eq.trans paymaster'.length_eq.symm)
      obtain ⟨words, data⟩ :=
        List.append_inj behind (limits.length_eq.trans limits'.length_eq.symm)
      cases Octets.toList_injective addresses
      cases Octets.toList_injective words
      obtain ⟨verification, postOp⟩ := Word.ofHalves_inj computed computed'
      have gas := congr (congrArg PaymasterGas.mk verification) postOp
      change first.paymasterGas = second.paymasterGas at gas
      rw [active, active', gas, data]
      exact ⟨rfl, rfl, rfl⟩

/-- The normal form of an operation is known by its packed form. -/
theorem normal_eq_of_pack {packed : PackedOperation} (one : first.pack = .ok packed)
    (two : second.pack = .ok packed) : first.normal = second.normal := by
  obtain ⟨limits, prices, data, limits_one, prices_one, data_one, rfl⟩ := pack_eq_ok_iff.mp one
  obtain ⟨limits', prices', data', limits_two, prices_two, data_two, same⟩ :=
    pack_eq_ok_iff.mp two
  simp only [packedWith, PackedOperation.mk.injEq] at same
  obtain ⟨sender, nonce, initCode, callData, rfl, preVerification, rfl, rfl, signature⟩ := same
  obtain ⟨factory, factoryData⟩ := factory_eq_of_initCode initCode.symm
  obtain ⟨paymaster, paymasterGas, paymasterData⟩ :=
    paymaster_eq_of_paymasterAndData data_one data_two
  obtain ⟨verification, call⟩ := Word.ofHalves_inj limits_one limits_two
  obtain ⟨priority, max⟩ := Word.ofHalves_inj prices_one prices_two
  have gas := congr (congr (congrArg GasLimits.mk preVerification.symm) call) verification
  have fees := congr (congrArg Fees.mk max) priority
  unfold normal at factoryData paymasterGas paymasterData ⊢
  rw [Operation.mk.injEq]
  exact ⟨sender.symm, nonce.symm, factory, factoryData, callData.symm, gas, fees, paymaster,
    paymasterGas, paymasterData, signature.symm⟩

end AccountRelay.Operation
