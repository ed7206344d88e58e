import AccountRelay.Proofs.Json.Restriction
import AccountRelay.Proofs.Operation.Reading

/-! # Operations that are estimated

The object of an operation whose gas is to be estimated is a part of the object that is sent for it
(`Operation.toEstimateBody_eq_restrict`). An operation that is estimated foreshadows another when both
do the same for the same sender. Then the two objects agree on all that is asked about, except the
signature (`Operation.Foreshadows.restrict_eq`).
-/

namespace AccountRelay

/-- Marked hexadecimal has two characters a byte behind its mark. -/
theorem Hex.length_marked (bytes : Bytes) : (marked bytes).length = 2 + 2 * bytes.length := by
  rw [← String.length_toList, marked, String.toList_ofList, List.length_cons, List.length_cons,
    length_encode]
  omega

namespace Operation

open Json (Value)

/-- The keys that say who acts and what is done. -/
def callKeys : List String :=
  ["sender", "nonce", "factory", "factoryData", "callData"]

/-- The keys of an object whose gas is to be estimated. -/
def estimateKeys : List String :=
  callKeys ++ ["signature"]

/-- The members of the body to send that an estimate has too are the call's members and the signature.
-/
theorem filter_sendMembers (operation : Operation) :
    operation.sendMembers.filter (fun member => member.1 ∈ estimateKeys) =
      operation.callMembers ++ [operation.signatureMember] := by
  unfold sendMembers callMembers paymasterMembers
  cases operation.factory with
  | none =>
      cases operation.activePaymaster with
      | none => rfl
      | some paymaster => rfl
  | some factory =>
      cases operation.activePaymaster with
      | none => rfl
      | some paymaster => rfl

/-- What is estimated of an operation is a part of what is sent of it. -/
theorem toEstimateBody_eq_restrict (operation : Operation) :
    operation.toEstimateBody = operation.toSendBody.restrict estimateKeys := by
  change Value.ofMembers _ = (Value.ofMembers operation.sendMembers).restrict estimateKeys
  rw [Value.restrict_ofMembers, filter_sendMembers]

/-- An estimate's body, without its signature, has the members of the call. -/
theorem restrict_toEstimateBody (operation : Operation) :
    operation.toEstimateBody.restrict callKeys = .ofMembers operation.callMembers := by
  unfold toEstimateBody callMembers
  rw [Value.restrict_ofMembers]
  cases operation.factory with
  | none => rfl
  | some factory => rfl

/-- The body to send, cut to the keys of the call, has the members of the call. -/
theorem restrict_toSendBody (operation : Operation) :
    operation.toSendBody.restrict callKeys = .ofMembers operation.callMembers := by
  have among : callKeys ⊆ estimateKeys := List.subset_append_left _ _
  rw [← restrict_toEstimateBody, toEstimateBody_eq_restrict, Value.restrict_restrict among]

/-- An estimate's body carries the signature in marked hexadecimal. -/
theorem get?_signature_toEstimateBody (operation : Operation) :
    operation.toEstimateBody.get? "signature" = some (.string (Hex.marked operation.signature)) := by
  unfold toEstimateBody signatureMember
  rw [Value.get?_ofMembers_concat]
  rfl

/-- The body to send carries the signature in marked hexadecimal. -/
theorem get?_signature_toSendBody (operation : Operation) :
    operation.toSendBody.get? "signature" = some (.string (Hex.marked operation.signature)) := by
  unfold toSendBody signatureMember
  rw [Value.get?_ofMembers_concat]
  rfl

/-- An operation that does what another does, for the same sender, with signatures of 65 bytes. -/
structure Foreshadows (probe operation : Operation) : Prop where
  sender : probe.sender = operation.sender
  nonce : probe.nonce = operation.nonce
  factory : probe.factory = operation.factory
  factoryData : probe.factoryData = operation.factoryData
  callData : probe.callData = operation.callData
  stands_in : probe.signature.length = 65
  signed : operation.signature.length = 65

namespace Foreshadows

variable {probe operation : Operation}

/-- The object for an estimate is the one that is sent, as far as it goes and but for the signature. -/
theorem restrict_eq (foreshadows : probe.Foreshadows operation) :
    probe.toEstimateBody.restrict callKeys = operation.toSendBody.restrict callKeys := by
  have members : probe.callMembers = operation.callMembers := by
    unfold callMembers
    rw [foreshadows.sender, foreshadows.nonce, foreshadows.factory, foreshadows.factoryData,
      foreshadows.callData]
  rw [restrict_toEstimateBody, restrict_toSendBody, members]

/-- A probe that foreshadows an operation carries a signature as long as the operation's. -/
theorem exists_signatures (foreshadows : probe.Foreshadows operation) :
    ∃ one other : String, probe.toEstimateBody.get? "signature" = some (.string one) ∧
      operation.toSendBody.get? "signature" = some (.string other) ∧ one.length = other.length := by
  refine ⟨_, _, get?_signature_toEstimateBody probe, get?_signature_toSendBody operation, ?_⟩
  rw [Hex.length_marked, Hex.length_marked, foreshadows.stands_in, foreshadows.signed]

end Foreshadows

end Operation

end AccountRelay
