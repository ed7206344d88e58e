import AccountRelay.Request
import AccountRelay.Services

/-! # Resolving a wallet

A choice of a wallet is resolved to the address that acts and, while there is no code at that
address, to what deploys it. `Resolver.inspect` only looks; `Resolver.resolve` also gives a wallet
that is about to be deployed its first balance.
-/

namespace AccountRelay

/-- Where a wallet lives and how to deploy it. -/
structure Resolution where
  sender : Address
  /-- Whether there is code at the address. -/
  deployed : Bool
  /-- The factory and its call data, for a wallet that has no code yet. -/
  init : Option (Address × Bytes)
deriving DecidableEq

/-- What wallets are derived and deployed with. -/
structure Resolver where
  owner : Address
  factory : Address
  initialFunding : Uint256

namespace Resolver

/-- The address derived from the owner and a salt. -/
def counterfactualAddress (resolver : Resolver) (salt : Salt) : Consultation Address :=
  Services.counterfactualAddress resolver.owner salt

/-- Whether there is code at an address. -/
def isDeployed (address : Address) : Consultation Bool := do
  let code ← Services.codeAt address
  return !code.isEmpty

/-- The address that acts; a look at the chain is needed only for a derived wallet. -/
def senderAddress (resolver : Resolver) : WalletChoice → Consultation Address
  | .derived salt => resolver.counterfactualAddress salt
  | .existing wallet => .done wallet

/-- Resolves a choice and changes nothing. -/
def inspect (resolver : Resolver) : WalletChoice → Consultation Resolution
  | .derived salt => do
    let sender ← resolver.counterfactualAddress salt
    if ← isDeployed sender then return { sender, deployed := true, init := none }
    else
      let data ← Services.createAccountCallData resolver.owner salt
      return { sender, deployed := false, init := some (resolver.factory, data) }
  | .existing sender => do
    let deployed ← isDeployed sender
    return { sender, deployed, init := none }

/-- Funds a wallet that is about to be deployed and leaves one with code alone; a wallet that has
neither code nor a way to get it is refused. -/
def prepare (resolver : Resolver) (resolution : Resolution) : Consultation Unit :=
  if resolution.deployed then .done ()
  else
    match resolution.init with
    | none => .fail (.notDeployed resolution.sender)
    | some _ => Services.fund resolution.sender resolver.initialFunding

/-- Resolves a choice and prepares the wallet. -/
def resolve (resolver : Resolver) (wallet : WalletChoice) : Consultation Resolution := do
  let resolution ← resolver.inspect wallet
  resolver.prepare resolution
  return resolution

end Resolver

end AccountRelay
