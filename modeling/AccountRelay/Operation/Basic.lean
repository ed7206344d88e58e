import AccountRelay.Uint256.Basic

/-! # User operations

An operation is what a smart-contract wallet is asked to do, with all that it takes to run it: how
to deploy the wallet if it has no code yet, how much gas it may use at which price, and who pays. An
address of zero bytes stands for no paymaster.
-/

namespace AccountRelay

/-- The gas that an operation may use in its three phases. -/
structure GasLimits where
  preVerification : Uint256
  call : Uint256
  verification : Uint256
deriving DecidableEq

/-- The price of gas: the most that is paid in all, and the part of it that is a tip. -/
structure Fees where
  max : Uint256
  priority : Uint256
deriving DecidableEq

/-- The gas that a paymaster may use. -/
structure PaymasterGas where
  verification : Uint256 := 1000000
  postOp : Uint256 := 21000
deriving DecidableEq

/-- A user operation. -/
structure Operation where
  sender : Address
  nonce : Uint256
  /-- The contract that deploys the sender, while the sender has no code. -/
  factory : Option Address := none
  factoryData : Bytes := []
  callData : Bytes := []
  gas : GasLimits
  fees : Fees
  paymaster : Option Address := none
  paymasterGas : PaymasterGas := ⟨0, 0⟩
  paymasterData : Bytes := []
  signature : Bytes := []
deriving DecidableEq

/-- The paymaster that pays for the operation, if there is one. -/
def Operation.activePaymaster (operation : Operation) : Option Address :=
  operation.paymaster.filter fun paymaster => !paymaster.isZero

end AccountRelay
