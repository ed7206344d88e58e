import AccountRelay.Abi

/-! # Calls of a wallet's own methods

The call data with which a wallet moves what it holds.
-/

namespace AccountRelay.WalletCall

/-- Sends the chain's own currency to an account. -/
def withdrawEth (recipient : Address) (amount : Uint256) : Bytes :=
  Abi.callData "withdrawETH(address,uint256)" [.ofAddress recipient, .ofNumber amount]

/-- Sends an amount of a token to an account. -/
def withdrawToken (token recipient : Address) (amount : Uint256) : Bytes :=
  Abi.callData "withdrawERC20(address,address,uint256)"
    [.ofAddress token, .ofAddress recipient, .ofNumber amount]

end AccountRelay.WalletCall
