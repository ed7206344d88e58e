import AccountRelay.Bytes

/-! # The Keccak-256 digest

The sponge over the permutation of 1600 bits, with a rate of 136 bytes and the padding that starts
with a single one bit. A state holds 25 lanes of 64 bits; lane `x + 5 * y` is the one in column `x`
and row `y`, and a byte string fills the lanes in that order, least significant byte first.
-/

namespace AccountRelay.Keccak

/-- The 25 lanes of the sponge. -/
abbrev State := Vector UInt64 25

/-- The lane in a column and a row, both taken modulo five. -/
def State.lane (state : State) (x y : Nat) : UInt64 :=
  state.get (Fin.ofNat 25 (x % 5 + 5 * (y % 5)))

/-- The state with a given lane for each column and row. -/
def State.ofLanes (lane : Nat → Nat → UInt64) : State :=
  Vector.ofFn fun place => lane (place.val % 5) (place.val / 5)

/-- A lane turned by a number of bits towards its most significant end. -/
def turned (lane : UInt64) (count : Nat) : UInt64 :=
  (lane <<< UInt64.ofNat count) ||| (lane >>> UInt64.ofNat (64 - count))

/-- How far the lane at each place is turned. -/
def turns : Vector Nat 25 := #v[
  0, 1, 62, 28, 27,
  36, 44, 6, 55, 20,
  3, 10, 43, 25, 39,
  41, 45, 15, 21, 8,
  18, 2, 61, 56, 14]

/-- The constants that tell the 24 rounds apart. -/
def roundConstants : List UInt64 := [
  0x0000000000000001, 0x0000000000008082, 0x800000000000808a, 0x8000000080008000,
  0x000000000000808b, 0x0000000080000001, 0x8000000080008081, 0x8000000000008009,
  0x000000000000008a, 0x0000000000000088, 0x0000000080008009, 0x000000008000000a,
  0x000000008000808b, 0x800000000000008b, 0x8000000000008089, 0x8000000000008003,
  0x8000000000008002, 0x8000000000000080, 0x000000000000800a, 0x800000008000000a,
  0x8000000080008081, 0x8000000000008080, 0x0000000080000001, 0x8000000080008008]

/-- The parity of a column. -/
def parity (state : State) (x : Nat) : UInt64 :=
  state.lane x 0 ^^^ state.lane x 1 ^^^ state.lane x 2 ^^^ state.lane x 3 ^^^ state.lane x 4

/-- Adds to each column the parities of its two neighbours. -/
def mixColumns (state : State) : State :=
  let parities := Vector.ofFn (n := 5) fun x => parity state x.val
  let column (x : Nat) := parities.get (Fin.ofNat 5 x)
  State.ofLanes fun x y => state.lane x y ^^^ column (x + 4) ^^^ turned (column (x + 1)) 1

/-- Turns each lane and moves it to its new place. -/
def moveLanes (state : State) : State :=
  State.ofLanes fun x y =>
    turned (state.lane (x + 3 * y) x) (turns.get (Fin.ofNat 25 ((x + 3 * y) % 5 + 5 * x)))

/-- Combines each lane with the next two of its row. -/
def mixRows (state : State) : State :=
  State.ofLanes fun x y =>
    state.lane x y ^^^ (~~~(state.lane (x + 1) y) &&& state.lane (x + 2) y)

/-- One round. -/
def round (state : State) (constant : UInt64) : State :=
  let mixed := mixRows (moveLanes (mixColumns state))
  mixed.set 0 (mixed.get 0 ^^^ constant)

/-- The permutation of the state. -/
def permute (state : State) : State :=
  roundConstants.foldl round state

/-- The number of bytes that one permutation takes in. -/
def rate : Nat := 136

/-- A message filled up to whole blocks. -/
def padded (message : Bytes) : Bytes :=
  let room := rate - message.length % rate
  if room = 1 then message ++ [0x81]
  else message ++ 0x01 :: List.replicate (room - 2) 0 ++ [0x80]

/-- The number that eight bytes spell, least significant byte first. -/
def laneOfBytes (bytes : Bytes) : UInt64 :=
  bytes.reverse.foldl (fun lane byte => (lane <<< 8) ||| byte.toUInt64) 0

/-- The eight bytes of a lane, least significant byte first. -/
def bytesOfLane (lane : UInt64) : Bytes :=
  (List.range 8).map fun place => (lane >>> UInt64.ofNat (8 * place)).toUInt8

/-- Takes a block into the state. -/
def absorb (state : State) (block : Bytes) : State :=
  let lanes := ((blocks 8 block).map laneOfBytes).toArray
  permute (Vector.ofFn fun place => state.get place ^^^ lanes.getD place.val 0)

/-- The state after all of a message. -/
def sponge (message : Bytes) : State :=
  (blocks rate (padded message)).foldl absorb (Vector.replicate 25 0)

end Keccak

/-- The Keccak-256 digest of a byte string. -/
def keccak256 (message : Bytes) : Hash :=
  let state := Keccak.sponge message
  let lane (place : Fin 25) := Keccak.bytesOfLane (state.get place)
  ⟨lane 0 ++ lane 1 ++ lane 2 ++ lane 3, by simp [lane, Keccak.bytesOfLane]⟩

end AccountRelay
