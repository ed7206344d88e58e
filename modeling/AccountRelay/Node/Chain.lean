import AccountRelay.Node.Request
import AccountRelay.Uint256.Quantity

/-! # Reading the chain

What the node tells of accounts and of the chain, and how its replies are read: quantities are one
to 64 hexadecimal digits behind an optional `0x`, with gaps among them, and byte strings are digit
pairs behind an optional mark of either case.
-/

namespace AccountRelay

/-- The number that a reply tells of. -/
def Uint256.ofReply? (reply : Json.Value) : Option Uint256 := do
  let digits := Hex.unmarked (← reply.text?).toList
  if digits.length = 0 ∨ 64 < digits.length then none
  else (Hex.loosely? digits).map fun bytes => BitVec.ofNat 256 (BigEndian.decode bytes)

/-- The bytes that a reply tells of. -/
def Bytes.ofReply? (reply : Json.Value) : Option Bytes := do
  (Hex.decode (Hex.unmarkedEither (← reply.text?).toList)).toOption

namespace Chain

/-- The code of an account; empty when it has none. -/
def codeAt (account : Address) : NodeWork Bytes :=
  ChainNode.lookUp .node .readCode Bytes.ofReply? (.codeAt account)

/-- The price of gas. -/
def gasPrice : NodeWork Uint256 :=
  ChainNode.lookUp .node .readGasPrice Uint256.ofReply? .gasPrice

/-- What an account has of the chain's own currency. -/
def balanceOf (account : Address) : NodeWork Uint256 :=
  ChainNode.lookUp .node .readBalance Uint256.ofReply? (.balanceOf account)

/-- The chain that the node follows, whose number has to fit in 64 bits. -/
def chainId : NodeWork UInt64 := do
  let number ← ChainNode.lookUp .node .readChainId Uint256.ofReply? .chainId
  if number.toNat < UInt64.size then return UInt64.ofNat number.toNat
  else .fail (.wideChainId number)

end Chain

end AccountRelay
