import AccountRelay.Operation.Basic
import AccountRelay.Uint256.Halves

/-! # Packed operations

The contracts see an operation in a packed form: the factory and its data are one byte string, two
gas limits share a word and so do the two fees, and the paymaster, its limits and its data are one
byte string again, empty without a paymaster. `Operation.pack` fails exactly when a number that has
to fit in half a word does not.
-/

namespace AccountRelay

/-- The form of an operation that is hashed and that contracts take. -/
structure PackedOperation where
  sender : Address
  nonce : Uint256
  initCode : Bytes
  callData : Bytes
  /-- The verification gas limit above the call gas limit. -/
  accountGasLimits : Word
  preVerificationGas : Uint256
  /-- The priority fee above the maximal fee. -/
  gasFees : Word
  paymasterAndData : Bytes
  signature : Bytes
deriving DecidableEq

/-- Where the paymaster's own data starts: behind its address and its two gas limits. -/
def paymasterDataOffset : Nat := 52

namespace Operation

/-- The factory and its data; empty without a factory. The zero address is a factory like any
other. -/
def initCode (operation : Operation) : Bytes :=
  match operation.factory with
  | some factory => factory.toList ++ operation.factoryData
  | none => []

/-- The word of the paymaster's two gas limits. -/
def paymasterLimits (operation : Operation) : Except TooWide Word :=
  Word.ofHalves ⟨"paymasterVerificationGasLimit", operation.paymasterGas.verification⟩
    ⟨"paymasterPostOpGasLimit", operation.paymasterGas.postOp⟩

/-- The paymaster, its gas limits and its data; empty without a paymaster. -/
def paymasterAndData (operation : Operation) : Except TooWide Bytes :=
  match operation.activePaymaster with
  | none => .ok []
  | some paymaster => do
    let limits ← operation.paymasterLimits
    return paymaster.toList ++ limits.toList ++ operation.paymasterData

/-- The word of the gas limits of the wallet. -/
def accountGasLimits (operation : Operation) : Except TooWide Word :=
  Word.ofHalves ⟨"verificationGasLimit", operation.gas.verification⟩
    ⟨"callGasLimit", operation.gas.call⟩

/-- The word of the fees. -/
def gasFees (operation : Operation) : Except TooWide Word :=
  Word.ofHalves ⟨"maxPriorityFeePerGas", operation.fees.priority⟩
    ⟨"maxFeePerGas", operation.fees.max⟩

/-- The packed form of an operation. -/
def pack (operation : Operation) : Except TooWide PackedOperation := do
  let accountGasLimits ← operation.accountGasLimits
  let gasFees ← operation.gasFees
  let paymasterAndData ← operation.paymasterAndData
  return {
    sender := operation.sender
    nonce := operation.nonce
    initCode := operation.initCode
    callData := operation.callData
    accountGasLimits
    preVerificationGas := operation.gas.preVerification
    gasFees
    paymasterAndData
    signature := operation.signature }

end Operation

end AccountRelay
