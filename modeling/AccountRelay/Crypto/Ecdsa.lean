import AccountRelay.Crypto.Secp256k1
import AccountRelay.Crypto.Sha256

/-! # Signatures over secp256k1

A digest is signed with the deterministic nonce that RFC 6979 derives from the key and the digest
with HMAC-SHA-256, so one key has one signature for a digest. Of the two values of `s` that verify,
the signature holds the one in the lower half of the order, and its last byte tells which of the
candidate points the signer's key is recovered from.
-/

namespace AccountRelay

open Secp256k1

/-- A number that can sign: at least one and below the order of the group. -/
structure SecretKey where
  scalar : Nat
  in_range : 0 < scalar ∧ scalar < Secp256k1.order
deriving DecidableEq

/-- The secret key that 32 bytes spell, if they spell one. -/
def SecretKey.ofOctets? (octets : Octets 32) : Option SecretKey :=
  let scalar := octets.toNat
  if in_range : 0 < scalar ∧ scalar < Secp256k1.order then some ⟨scalar, in_range⟩ else none

/-- The point that others know the key by. -/
def SecretKey.publicPoint (key : SecretKey) : Point :=
  generator.times key.scalar

namespace Ecdsa

/-- A signature: the two numbers, and whether the point of the nonce has an odd `y`. -/
structure Signature where
  r : Nat
  s : Nat
  odd : Bool
deriving DecidableEq

/-- The state of the nonce generator: a key and a value of 32 bytes each. -/
structure NonceState where
  key : Bytes
  value : Bytes

/-- Mixes a text into the state. -/
def NonceState.feed (state : NonceState) (text : Bytes) : NonceState :=
  let key := hmacSha256 state.key (state.value ++ text)
  ⟨key, hmacSha256 key state.value⟩

/-- The state for a key and a digest, before the first nonce. -/
def NonceState.start (key : SecretKey) (digest : Nat) : NonceState :=
  let seed := BigEndian.encode 32 key.scalar ++ BigEndian.encode 32 (digest % order)
  let state : NonceState := ⟨List.replicate 32 0, List.replicate 32 1⟩
  (state.feed (0 :: seed)).feed (1 :: seed)

/-- The signature with a given nonce, if the nonce gives one. -/
def signWith? (key : SecretKey) (digest nonce : Nat) : Option Signature :=
  match generator.times nonce with
  | .neutral => none
  | .affine x y =>
    let r := x % order
    let s := inverse order nonce * ((digest + r * key.scalar) % order) % order
    if nonce = 0 ∨ order ≤ nonce ∨ r = 0 ∨ s = 0 then none
    else if order / 2 < s then some ⟨r, order - s, y % 2 = 0⟩
    else some ⟨r, s, y % 2 = 1⟩

/-- The signature with the first nonce of the generator that gives one, of at most `tries`. -/
def signFrom (key : SecretKey) (digest : Nat) : Nat → NonceState → Signature
  | 0, _ => ⟨0, 0, false⟩
  | tries + 1, state =>
    let value := hmacSha256 state.key state.value
    match signWith? key digest (BigEndian.decode value) with
    | some signature => signature
    | none => signFrom key digest tries (NonceState.feed { state with value } [0])

/-- The signature of a digest. A nonce fails with a chance of less than one in two to the 127th, so
a hundred of them are as good as any number. -/
def sign (key : SecretKey) (digest : Hash) : Signature :=
  signFrom key digest.toNat 100 (NonceState.start key digest.toNat)

/-- The 65 bytes `r ‖ s ‖ v`, with `v` 28 for an odd point and 27 for an even one. -/
def Signature.toBytes (signature : Signature) : Bytes :=
  BigEndian.encode 32 signature.r ++ BigEndian.encode 32 signature.s ++
    [if signature.odd then 28 else 27]

end Ecdsa

end AccountRelay
