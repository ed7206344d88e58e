import AccountRelay.Abi
import AccountRelay.Failure

/-! # Sponsorship data

A paymaster's authorization is a window of time and a signature: two words for the bounds, the later
one first, and then the signature. Bounds have 48 bits. `Sponsorship.decode` undoes
`Sponsorship.encode` on bounds in range.
-/

namespace AccountRelay

/-- The time in which an authorization is valid, in seconds since the epoch. -/
structure ValidityWindow where
  validUntil : UInt64
  validAfter : UInt64
deriving DecidableEq

/-- The last time that a bound can name. -/
def ValidityWindow.lastTime : Nat := 0xFFFFFFFFFFFF

/-- The window from a time on for a number of seconds. -/
def ValidityWindow.startingAt (now validity : UInt64) : Except Failure ValidityWindow :=
  let validUntil := now.toNat + validity.toNat
  if validUntil ≤ lastTime then .ok ⟨UInt64.ofNat validUntil, now⟩ else .error .windowTooLate

namespace Sponsorship

/-- The data of an authorization. -/
def encode (window : ValidityWindow) (signature : Bytes) : Bytes :=
  Abi.encode [.ofUInt64 window.validUntil, .ofUInt64 window.validAfter] ++ signature

/-- The bound that a word names, if it is in range. -/
def bound? (word : Bytes) : Option UInt64 :=
  let time := BigEndian.decode word
  if time ≤ ValidityWindow.lastTime then some (UInt64.ofNat time) else none

/-- The window and the signature that data hold. -/
def decode (data : Bytes) : Option (ValidityWindow × Bytes) :=
  if data.length < 64 then none
  else do
    let validUntil ← bound? (data.take 32)
    let validAfter ← bound? ((data.drop 32).take 32)
    return (⟨validUntil, validAfter⟩, data.drop 64)

end Sponsorship

end AccountRelay
