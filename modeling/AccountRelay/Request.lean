import AccountRelay.Input

/-! # Requests

What a caller asks for: which wallet acts, what it does, and who is to pay for it.
-/

namespace AccountRelay

/-- The wallet that acts. -/
inductive WalletChoice
  /-- The wallet derived from the owner and a salt, which may have no code yet. -/
  | derived (salt : Salt)
  /-- A wallet that has code. -/
  | existing (wallet : Address)
deriving DecidableEq

/-- The address of a chosen wallet of an owner, given how wallets are derived. -/
def WalletChoice.sender (derive : Address → Salt → Address) (owner : Address) :
    WalletChoice → Address
  | .derived salt => derive owner salt
  | .existing wallet => wallet

/-- The choice that a caller makes with a salt or a wallet, of which there has to be exactly one. -/
def WalletChoice.ofParts : Option Salt → Option Address → Except InputError WalletChoice
  | some salt, none => .ok (.derived salt)
  | none, some wallet => .ok (.existing wallet)
  | _, _ => .error .walletSelection

/-- A request for one operation. -/
structure Request where
  wallet : WalletChoice
  callData : Bytes := []
  paymaster : Option Address := none
  /-- Data that stands in for the authorization until there is one. -/
  paymasterData : Bytes := []
deriving DecidableEq

end AccountRelay
