import AccountRelay.Bytes

/-! # The SHA-256 digest and message authentication with it

`sha256` digests blocks of 64 bytes into eight words of 32 bits; `hmacSha256` authenticates a
message under a key of at most one block.
-/

namespace AccountRelay.Sha256

/-- The eight words of the chaining value. -/
abbrev State := Vector UInt32 8

/-- The constants of the 64 rounds. -/
def roundConstants : List UInt32 := [
  0x428a2f98, 0x71374491, 0xb5c0fbcf, 0xe9b5dba5, 0x3956c25b, 0x59f111f1, 0x923f82a4, 0xab1c5ed5,
  0xd807aa98, 0x12835b01, 0x243185be, 0x550c7dc3, 0x72be5d74, 0x80deb1fe, 0x9bdc06a7, 0xc19bf174,
  0xe49b69c1, 0xefbe4786, 0x0fc19dc6, 0x240ca1cc, 0x2de92c6f, 0x4a7484aa, 0x5cb0a9dc, 0x76f988da,
  0x983e5152, 0xa831c66d, 0xb00327c8, 0xbf597fc7, 0xc6e00bf3, 0xd5a79147, 0x06ca6351, 0x14292967,
  0x27b70a85, 0x2e1b2138, 0x4d2c6dfc, 0x53380d13, 0x650a7354, 0x766a0abb, 0x81c2c92e, 0x92722c85,
  0xa2bfe8a1, 0xa81a664b, 0xc24b8b70, 0xc76c51a3, 0xd192e819, 0xd6990624, 0xf40e3585, 0x106aa070,
  0x19a4c116, 0x1e376c08, 0x2748774c, 0x34b0bcb5, 0x391c0cb3, 0x4ed8aa4a, 0x5b9cca4f, 0x682e6ff3,
  0x748f82ee, 0x78a5636f, 0x84c87814, 0x8cc70208, 0x90befffa, 0xa4506ceb, 0xbef9a3f7, 0xc67178f2]

/-- The chaining value before the first block. -/
def initial : State := #v[
  0x6a09e667, 0xbb67ae85, 0x3c6ef372, 0xa54ff53a, 0x510e527f, 0x9b05688c, 0x1f83d9ab, 0x5be0cd19]

/-- A word turned by a number of bits towards its least significant end. -/
def turned (word : UInt32) (count : UInt32) : UInt32 :=
  (word >>> count) ||| (word <<< (32 - count))

/-- The next word of the message schedule, from the last sixteen, latest first. -/
def nextWord (latest : List UInt32) : UInt32 :=
  let word (back : Nat) := latest.getD (back - 1) 0
  let near := turned (word 15) 7 ^^^ turned (word 15) 18 ^^^ (word 15 >>> 3)
  let far := turned (word 2) 17 ^^^ turned (word 2) 19 ^^^ (word 2 >>> 10)
  word 16 + near + word 7 + far

/-- The words of the schedule, latest first, extended by `count` words. -/
def extended : Nat → List UInt32 → List UInt32
  | 0, words => words
  | count + 1, words => extended count (nextWord words :: words)

/-- The word that four bytes spell, most significant byte first. -/
def wordOfBytes (bytes : Bytes) : UInt32 :=
  UInt32.ofNat (BigEndian.decode bytes)

/-- One round. -/
def round (state : State) (input : UInt32 × UInt32) : State :=
  let a := state.get 0
  let b := state.get 1
  let c := state.get 2
  let e := state.get 4
  let f := state.get 5
  let g := state.get 6
  let choice := (e &&& f) ^^^ (~~~e &&& g)
  let majority := (a &&& b) ^^^ (a &&& c) ^^^ (b &&& c)
  let first :=
    state.get 7 + (turned e 6 ^^^ turned e 11 ^^^ turned e 25) + choice + input.1 + input.2
  let second := (turned a 2 ^^^ turned a 13 ^^^ turned a 22) + majority
  #v[first + second, a, b, c, state.get 3 + first, e, f, g]

/-- Takes a block into the chaining value. -/
def compress (state : State) (block : Bytes) : State :=
  let words := (blocks 4 block).map wordOfBytes
  let schedule := (extended 48 words.reverse).reverse
  let last := (roundConstants.zip schedule).foldl round state
  Vector.ofFn fun place => state.get place + last.get place

/-- A message filled up to whole blocks, its length in bits at the end. -/
def padded (message : Bytes) : Bytes :=
  let zeros := (119 - message.length % 64) % 64
  message ++ 0x80 :: List.replicate zeros 0 ++ BigEndian.encode 8 (8 * message.length)

end Sha256

/-- The SHA-256 digest of a byte string. -/
def sha256 (message : Bytes) : Bytes :=
  let state := (blocks 64 (Sha256.padded message)).foldl Sha256.compress Sha256.initial
  state.toList.flatMap fun word => BigEndian.encode 4 word.toNat

/-- The authentication code of a message under a key of at most 64 bytes. -/
def hmacSha256 (key message : Bytes) : Bytes :=
  let block := key ++ List.replicate (64 - key.length) 0
  let inner := sha256 (block.map (· ^^^ 0x36) ++ message)
  sha256 (block.map (· ^^^ 0x5c) ++ inner)

end AccountRelay
