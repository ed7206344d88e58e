import AccountRelay.Input
import AccountRelay.Json.Value
import AccountRelay.Operation.Packed
import AccountRelay.Uint256.Quantity

/-! # Operations in requests

The JSON objects that a bundler takes. The members of the factory are there when the operation has
one, and the members of the paymaster when it has one that is not zero, which is when the packed
form holds them. An object for an estimate leaves out gas, fees and paymaster.
-/

namespace AccountRelay.Operation

open Json (Value)

/-- A byte string as a member's value. -/
def bytesValue (bytes : Bytes) : Value :=
  .string (Hex.marked bytes)

/-- A number as a member's value. -/
def quantityValue (number : Uint256) : Value :=
  .string number.toQuantity

/-- The members that say who acts and what is done. -/
def callMembers (operation : Operation) : List (String × Value) :=
  let factory := match operation.factory with
    | some factory =>
      [("factory", bytesValue factory.toList), ("factoryData", bytesValue operation.factoryData)]
    | none => []
  [("sender", bytesValue operation.sender.toList), ("nonce", quantityValue operation.nonce)] ++
    factory ++ [("callData", bytesValue operation.callData)]

/-- The members that say what is paid. -/
def gasMembers (operation : Operation) : List (String × Value) :=
  [("callGasLimit", quantityValue operation.gas.call),
    ("verificationGasLimit", quantityValue operation.gas.verification),
    ("preVerificationGas", quantityValue operation.gas.preVerification),
    ("maxFeePerGas", quantityValue operation.fees.max),
    ("maxPriorityFeePerGas", quantityValue operation.fees.priority)]

/-- The members that say who pays. -/
def paymasterMembers (operation : Operation) : List (String × Value) :=
  match operation.activePaymaster with
  | some paymaster =>
    [("paymaster", bytesValue paymaster.toList),
      ("paymasterVerificationGasLimit", quantityValue operation.paymasterGas.verification),
      ("paymasterPostOpGasLimit", quantityValue operation.paymasterGas.postOp),
      ("paymasterData", bytesValue operation.paymasterData)]
  | none => []

/-- The member of the signature. -/
def signatureMember (operation : Operation) : String × Value :=
  ("signature", bytesValue operation.signature)

/-- The object of an operation that is sent. -/
def toSendBody (operation : Operation) : Value :=
  .ofMembers (operation.callMembers ++ operation.gasMembers ++ operation.paymasterMembers ++
    [operation.signatureMember])

/-- The object of an operation whose gas is to be estimated. -/
def toEstimateBody (operation : Operation) : Value :=
  .ofMembers (operation.callMembers ++ [operation.signatureMember])

end AccountRelay.Operation
