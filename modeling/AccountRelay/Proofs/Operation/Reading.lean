import AccountRelay.Bundler.Reply
import AccountRelay.Operation.Hash
import AccountRelay.Proofs.Json.Members
import AccountRelay.Proofs.Operation.Normal
import AccountRelay.Proofs.Uint256.Quantity

/-! # Reading operations that are sent

`Operation.ofSendBody` is the other side of `Operation.toSendBody`: it reads an operation from the
object that a bundler is sent, field by field, with the readers for what comes from outside. An
object without a factory is one of an operation without a factory, and likewise for the paymaster.
What is read is the normal form of the operation that was sent, and that is what was hashed
(`Operation.ofSendBody_toSendBody`). So two operations are sent as the same object exactly when they
have the same normal form (`Operation.toSendBody_eq_iff`).
-/

namespace AccountRelay

/-! ## Texts -/

/-- Every byte string is read back from its digits behind the mark. -/
theorem Input.bytes_marked (field : String) (bytes : Bytes) :
    Input.bytes field (Hex.marked bytes) = .ok bytes := by
  have decoded := Hex.decodeMarked_eq_ok_iff.mpr
    ⟨_, Hex.isBehind_marked bytes, Hex.spells_encode bytes⟩
  rw [Input.bytes, decoded]
  rfl

/-- Every address is read back from its digits behind the mark. -/
theorem Input.address_marked (field : String) (address : Address) :
    Input.address field (Hex.marked address.toList) = .ok address := by
  have octets := Hex.octets?_eq_some_iff.mpr
    ⟨_, Hex.isBehind_marked address.toList, Hex.spells_encode address.toList⟩
  rw [Input.address, octets]

namespace Operation

open Json (Value)

/-! ## Members -/

/-- The text in a member. -/
def memberText (body : Value) (key : String) : Except Failure String :=
  match (body.get? key).bind Value.text? with
  | some text => .ok text
  | none => .error (.missingField key)

/-- The address in a member. -/
def addressMember (body : Value) (key : String) : Except Failure Address := do
  let text ← memberText body key
  (Input.address key text).mapError .input

/-- The byte string in a member. -/
def bytesMember (body : Value) (key : String) : Except Failure Bytes := do
  let text ← memberText body key
  (Input.bytes key text).mapError .input

/-- The factory and its data; no factory without its member. -/
def factoryMember (body : Value) : Except Failure (Option Address × Bytes) :=
  match body.get? "factory" with
  | none => .ok (none, [])
  | some _ => do
    let factory ← addressMember body "factory"
    let data ← bytesMember body "factoryData"
    return (some factory, data)

/-- The two fees. -/
def feeMembers (body : Value) : Except Failure Fees := do
  let max ← Bundler.quantityMember body "maxFeePerGas"
  let priority ← Bundler.quantityMember body "maxPriorityFeePerGas"
  return { max, priority }

/-- The paymaster, its gas and its data; no paymaster, gas or data without its member. -/
def paymasterMember (body : Value) : Except Failure (Option Address × PaymasterGas × Bytes) :=
  match body.get? "paymaster" with
  | none => .ok (none, ⟨0, 0⟩, [])
  | some _ => do
    let paymaster ← addressMember body "paymaster"
    let verification ← Bundler.quantityMember body "paymasterVerificationGasLimit"
    let postOp ← Bundler.quantityMember body "paymasterPostOpGasLimit"
    let data ← bytesMember body "paymasterData"
    return (some paymaster, { verification, postOp }, data)

/-- Reads an operation from the object that is sent. -/
def ofSendBody (body : Value) : Except Failure Operation := do
  let sender ← addressMember body "sender"
  let nonce ← Bundler.quantityMember body "nonce"
  let (factory, factoryData) ← factoryMember body
  let callData ← bytesMember body "callData"
  let gas ← Bundler.gasEstimate body
  let fees ← feeMembers body
  let (paymaster, paymasterGas, paymasterData) ← paymasterMember body
  let signature ← bytesMember body "signature"
  return {
    sender, nonce, factory, factoryData, callData, gas, fees, paymaster, paymasterGas,
    paymasterData, signature }

section Members

variable {body : Value} {key : String}

/-- A member that is a text is read as that text. -/
theorem memberText_of_get? {text : String} (found : body.get? key = some (.string text)) :
    memberText body key = .ok text := by
  rw [memberText, found]
  rfl

/-- A member written from bytes is read back as those bytes. -/
theorem bytesMember_of_get? {bytes : Bytes} (found : body.get? key = some (bytesValue bytes)) :
    bytesMember body key = .ok bytes := by
  rw [bytesMember, memberText_of_get? found]
  change (Input.bytes key (Hex.marked bytes)).mapError Failure.input = .ok bytes
  rw [Input.bytes_marked]
  rfl

/-- A member written from an address is read back as that address. -/
theorem addressMember_of_get? {address : Address}
    (found : body.get? key = some (bytesValue address.toList)) :
    addressMember body key = .ok address := by
  rw [addressMember, memberText_of_get? found]
  change (Input.address key (Hex.marked address.toList)).mapError Failure.input = .ok address
  rw [Input.address_marked]
  rfl

/-- A member written from a number is read back as that number. -/
theorem quantityMember_of_get? {number : Uint256}
    (found : body.get? key = some (quantityValue number)) :
    Bundler.quantityMember body key = .ok number := by
  rw [Bundler.quantityMember, found]
  change Uint256.parseQuantity number.toQuantity = .ok number
  rw [Uint256.parseQuantity, Uint256.ofQuantity_toQuantity]
  rfl

end Members

/-! ## The object that is sent -/

/-- The members of the object that is sent. -/
def sendMembers (operation : Operation) : List (String × Value) :=
  operation.callMembers ++ operation.gasMembers ++ operation.paymasterMembers ++
    [operation.signatureMember]

variable (operation : Operation)

/-- The keys of the object that is sent. -/
theorem keys_sendMembers :
    operation.sendMembers.map (·.1) =
      ["sender", "nonce"] ++
      (if operation.factory.isSome then ["factory", "factoryData"] else []) ++
      ["callData", "callGasLimit", "verificationGasLimit", "preVerificationGas", "maxFeePerGas",
        "maxPriorityFeePerGas"] ++
      (if operation.activePaymaster.isSome then
        ["paymaster", "paymasterVerificationGasLimit", "paymasterPostOpGasLimit", "paymasterData"]
      else []) ++ ["signature"] := by
  unfold sendMembers callMembers paymasterMembers
  cases operation.factory with
  | none =>
      cases operation.activePaymaster with
      | none => rfl
      | some paymaster => rfl
  | some factory =>
      cases operation.activePaymaster with
      | none => rfl
      | some paymaster => rfl

/-- No key is repeated in the object that is sent. -/
theorem distinct_sendMembers : (operation.sendMembers.map (·.1)).Nodup := by
  rw [keys_sendMembers]
  cases operation.factory.isSome with
  | false =>
      cases operation.activePaymaster.isSome with
      | false => decide
      | true => decide
  | true =>
      cases operation.activePaymaster.isSome with
      | false => decide
      | true => decide

/-- Every member is found in the object that is sent. -/
theorem get?_toSendBody {operation : Operation} {key : String} {value : Value}
    (member : (key, value) ∈ operation.sendMembers) : operation.toSendBody.get? key = some value :=
  Value.get?_ofMembers_of_mem operation.distinct_sendMembers member

/-- The factory in the object that is sent is the one of the normal form. -/
theorem factoryMember_toSendBody :
    factoryMember operation.toSendBody =
      .ok (operation.normal.factory, operation.normal.factoryData) := by
  cases present : operation.factory with
  | none =>
      have missing : "factory" ∉ operation.sendMembers.map (·.1) := by
        rw [keys_sendMembers, present]
        cases operation.activePaymaster.isSome with
        | false => decide
        | true => decide
      have absent : operation.toSendBody.get? "factory" = none :=
        Value.get?_ofMembers_of_notMem missing
      simp only [factoryMember, absent, normal, present, Option.isSome_none]
      rfl
  | some factory =>
      have shown : operation.toSendBody.get? "factory" = some (bytesValue factory.toList) :=
        get?_toSendBody (by simp [sendMembers, callMembers, present])
      have address : addressMember operation.toSendBody "factory" = .ok factory :=
        addressMember_of_get? (get?_toSendBody (by simp [sendMembers, callMembers, present]))
      have data : bytesMember operation.toSendBody "factoryData" = .ok operation.factoryData :=
        bytesMember_of_get? (get?_toSendBody (by simp [sendMembers, callMembers, present]))
      simp only [factoryMember, shown, address, data, normal, present, Option.isSome_some]
      rfl

/-- The paymaster in the object that is sent is the one of the normal form. -/
theorem paymasterMember_toSendBody :
    paymasterMember operation.toSendBody =
      .ok (operation.normal.paymaster, operation.normal.paymasterGas,
        operation.normal.paymasterData) := by
  cases active : operation.activePaymaster with
  | none =>
      have missing : "paymaster" ∉ operation.sendMembers.map (·.1) := by
        rw [keys_sendMembers, active]
        cases operation.factory.isSome with
        | false => decide
        | true => decide
      have absent : operation.toSendBody.get? "paymaster" = none :=
        Value.get?_ofMembers_of_notMem missing
      simp only [paymasterMember, absent, normal, active, Option.isSome_none]
      rfl
  | some paymaster =>
      have shown : operation.toSendBody.get? "paymaster" = some (bytesValue paymaster.toList) :=
        get?_toSendBody (by simp [sendMembers, paymasterMembers, active])
      have address : addressMember operation.toSendBody "paymaster" = .ok paymaster :=
        addressMember_of_get? (get?_toSendBody (by simp [sendMembers, paymasterMembers, active]))
      have verification : Bundler.quantityMember operation.toSendBody
          "paymasterVerificationGasLimit" = .ok operation.paymasterGas.verification :=
        quantityMember_of_get? (get?_toSendBody (by simp [sendMembers, paymasterMembers, active]))
      have postOp : Bundler.quantityMember operation.toSendBody "paymasterPostOpGasLimit" =
          .ok operation.paymasterGas.postOp :=
        quantityMember_of_get? (get?_toSendBody (by simp [sendMembers, paymasterMembers, active]))
      have data : bytesMember operation.toSendBody "paymasterData" = .ok operation.paymasterData :=
        bytesMember_of_get? (get?_toSendBody (by simp [sendMembers, paymasterMembers, active]))
      simp only [paymasterMember, shown, address, verification, postOp, data, normal, active,
        Option.isSome_some]
      rfl

/-- The gas limits are read back from the body they are sent in. -/
theorem gasEstimate_toSendBody :
    Bundler.gasEstimate operation.toSendBody = .ok operation.gas := by
  have preVerification : Bundler.quantityMember operation.toSendBody "preVerificationGas" =
      .ok operation.gas.preVerification :=
    quantityMember_of_get? (get?_toSendBody (by simp [sendMembers, gasMembers]))
  have call : Bundler.quantityMember operation.toSendBody "callGasLimit" =
      .ok operation.gas.call :=
    quantityMember_of_get? (get?_toSendBody (by simp [sendMembers, gasMembers]))
  have verification : Bundler.quantityMember operation.toSendBody "verificationGasLimit" =
      .ok operation.gas.verification :=
    quantityMember_of_get? (get?_toSendBody (by simp [sendMembers, gasMembers]))
  simp only [Bundler.gasEstimate, preVerification, call, verification]
  rfl

/-- The fees are read back from the body they are sent in. -/
theorem feeMembers_toSendBody : feeMembers operation.toSendBody = .ok operation.fees := by
  have max : Bundler.quantityMember operation.toSendBody "maxFeePerGas" =
      .ok operation.fees.max :=
    quantityMember_of_get? (get?_toSendBody (by simp [sendMembers, gasMembers]))
  have priority : Bundler.quantityMember operation.toSendBody "maxPriorityFeePerGas" =
      .ok operation.fees.priority :=
    quantityMember_of_get? (get?_toSendBody (by simp [sendMembers, gasMembers]))
  simp only [feeMembers, max, priority]
  rfl

/-- What is read from the object that is sent is the normal form of the operation. -/
theorem ofSendBody_eq_normal : ofSendBody operation.toSendBody = .ok operation.normal := by
  have sender : addressMember operation.toSendBody "sender" = .ok operation.sender :=
    addressMember_of_get? (get?_toSendBody (by simp [sendMembers, callMembers]))
  have nonce : Bundler.quantityMember operation.toSendBody "nonce" = .ok operation.nonce :=
    quantityMember_of_get? (get?_toSendBody (by simp [sendMembers, callMembers]))
  have callData : bytesMember operation.toSendBody "callData" = .ok operation.callData :=
    bytesMember_of_get? (get?_toSendBody (by simp [sendMembers, callMembers]))
  have signature : bytesMember operation.toSendBody "signature" = .ok operation.signature :=
    bytesMember_of_get? (get?_toSendBody (by simp [sendMembers, signatureMember]))
  simp only [ofSendBody, sender, nonce, callData, signature, factoryMember_toSendBody,
    gasEstimate_toSendBody, feeMembers_toSendBody, paymasterMember_toSendBody]
  rfl

/-- Two operations are sent as the same object exactly when they have the same normal form. -/
theorem toSendBody_eq_iff (first second : Operation) :
    first.toSendBody = second.toSendBody ↔ first.normal = second.normal := by
  constructor
  · intro same
    have read := ofSendBody_eq_normal first
    rw [same, ofSendBody_eq_normal] at read
    exact (Except.ok.inj read).symm
  · intro same
    rw [← toSendBody_normal, same, toSendBody_normal]

/-- **What is hashed is what is sent.** The object that is sent is read back, without fail, as the
normal form of the operation. The operation and its normal form pack the same, into one packed form
or with one fault, so for every entry point and chain they have the same hash. -/
theorem ofSendBody_toSendBody :
    ofSendBody operation.toSendBody = .ok operation.normal ∧
    operation.normal.pack = operation.pack ∧
    ∀ entryPoint chainId,
      operation.normal.pack.map (·.hash entryPoint chainId) =
        operation.pack.map (·.hash entryPoint chainId) := by
  have packs := operation.pack_normal
  refine ⟨operation.ofSendBody_eq_normal, packs, ?_⟩
  intro entryPoint chainId
  rw [packs]

end Operation

end AccountRelay
