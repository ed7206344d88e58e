import AccountRelay.Abi
import AccountRelay.Operation.Packed

/-! # The hash of an operation

The entry point names an operation by a hash over all of it but the signature, over the entry
point's own address and over the chain. Byte strings enter as their digests, so the hashed text has
the same length for every operation.
-/

namespace AccountRelay.PackedOperation

/-- The words that stand for the operation itself. -/
def summary (operation : PackedOperation) : Bytes :=
  Abi.encode [
    .ofAddress operation.sender,
    .ofNumber operation.nonce,
    .word (keccak256 operation.initCode),
    .word (keccak256 operation.callData),
    .word operation.accountGasLimits,
    .ofNumber operation.preVerificationGas,
    .word operation.gasFees,
    .word (keccak256 operation.paymasterAndData)]

/-- The hash of an operation for an entry point on a chain. -/
def hash (operation : PackedOperation) (entryPoint : Address) (chainId : UInt64) : Hash :=
  keccak256 (Abi.encode [
    .word (keccak256 operation.summary),
    .ofAddress entryPoint,
    .ofUInt64 chainId])

/-- The operation as the argument of a contract call. -/
def toArgument (operation : PackedOperation) : Abi.Argument :=
  .tuple [
    .ofAddress operation.sender,
    .ofNumber operation.nonce,
    .bytes operation.initCode,
    .bytes operation.callData,
    .word operation.accountGasLimits,
    .ofNumber operation.preVerificationGas,
    .word operation.gasFees,
    .bytes operation.paymasterAndData,
    .bytes operation.signature]

end AccountRelay.PackedOperation
