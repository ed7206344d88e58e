import AccountRelay.Gas

/-! # Deployments

A deployment says on which chain, through which endpoints and with which contracts wallets work, and
on which terms operations are paid for.
-/

namespace AccountRelay

/-- How a new wallet gets its first balance. -/
inductive FundingMode
  /-- The paymaster mints tokens for it. -/
  | paymasterMint
  /-- The owner sends it the chain's own currency. -/
  | native
  /-- It gets none. -/
  | none
deriving DecidableEq

/-- The settings that all parts of the program share. -/
structure Deployment where
  chainId : UInt64
  rpcUrl : String := ""
  bundlerUrl : String := ""
  entryPoint : Address
  accountFactory : Address
  paymaster : Address
  gasPolicy : GasPolicy := {}
  paymasterGas : PaymasterGas := {}
  /-- For how many seconds an authorization is valid. -/
  paymasterValidity : UInt64 := 3600
  initialFunding : Uint256 := 1000000000000000000
  fundingMode : FundingMode := .paymasterMint
deriving DecidableEq

end AccountRelay
