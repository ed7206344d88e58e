import AccountRelay.Failure
import AccountRelay.Operation.Basic
import AccountRelay.Uint256.Quantity

/-! # What a bundler answers

The readers of a bundler's results, and of the object it answers with when it turns a request down.
-/

namespace AccountRelay

/-- What is reported of an operation once it is part of a block. -/
structure Receipt where
  success : Bool
  reason : Option String
deriving DecidableEq

/-- Reads a 32-byte hash behind an optional `0x`. -/
def Hash.parse (text : String) : Except Failure Hash :=
  match Hex.decodeMarked text.toList with
  | .error fault => .error (.badDigits fault)
  | .ok bytes =>
    match Octets.ofBytes? 32 bytes with
    | some hash => .ok hash
    | none => .error (.hashSize bytes.length)

/-- Reads the hash of an operation as a caller wrote it. -/
def Hash.ofCaller (text : String) : Except Failure Hash :=
  (Hash.parse text).mapError (.within (.operationHash text))

/-- Reads a quantity. -/
def Uint256.parseQuantity (text : String) : Except Failure Uint256 :=
  (Uint256.ofQuantity text.toList).mapError .badDigits

namespace Bundler

open Json (Value)

/-- The rejection that an error object tells of. Without an integer code the code is zero; without a
text the whole object is the message. -/
def rejection (method : String) (error : Value) : Rejection where
  method
  code := ((error.get? "code").bind Value.int64?).getD 0
  message := ((error.get? "message").bind Value.text?).getD error.toText
  data := error.get? "data"

/-- The quantity in a member of a result. -/
def quantityMember (result : Value) (key : String) : Except Failure Uint256 :=
  match (result.get? key).bind Value.text? with
  | some text => Uint256.parseQuantity text
  | none => .error (.missingField key)

/-- The estimate in a result. -/
def gasEstimate (result : Value) : Except Failure GasLimits := do
  let preVerification ← quantityMember result "preVerificationGas"
  let call ← quantityMember result "callGasLimit"
  let verification ← quantityMember result "verificationGasLimit"
  return { preVerification, call, verification }

/-- The text that names the operation in a result: the result itself or one of three members. -/
def hashText? (result : Value) : Option String :=
  let member (key : String) := (result.get? key).bind Value.text?
  result.text? <|> member "result" <|> member "userOpHash" <|> member "userOperationHash"

/-- The hash of the operation in a result. -/
def operationHash (result : Value) : Except Failure Hash :=
  match hashText? result with
  | some text => Hash.parse text
  | none => .error (.unknownHashShape result)

/-- The receipt in a result; a null result means that there is none yet. -/
def receipt (result : Value) : Except Failure (Option Receipt) :=
  if result.isNull then .ok none
  else
    match (result.get? "success").bind Value.bool? with
    | none => .error (.receiptWithoutSuccess result)
    | some success =>
      let reason := ((result.get? "reason").bind Value.text?).filter fun text => !text.isEmpty
      .ok (some { success, reason })

/-- The tip in a result. -/
def priorityFee (result : Value) : Except Failure Uint256 :=
  match result.text? with
  | some text => Uint256.parseQuantity text
  | none => .error (.feeNotText result)

end Bundler

end AccountRelay
