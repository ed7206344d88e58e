import AccountRelay.Services

/-! # Lookups

What is looked up without building an operation: balances, and whether the node follows the chain
that a deployment was written for.
-/

namespace AccountRelay.Lookup

/-- What a wallet has: of a token, or of the chain's own currency when none is named. -/
def balance (wallet : Address) : Option Address → Consultation Uint256
  | none => Services.balanceOf wallet
  | some token => Services.within (.tokenBalance token) (Services.tokenBalance token wallet)

/-- Fails unless the node follows the expected chain. -/
def ensureChain (expected : UInt64) : Consultation Unit := do
  let actual ← Services.chainId
  if actual = expected then return ()
  else .fail (.chainMismatch expected actual)

end AccountRelay.Lookup
