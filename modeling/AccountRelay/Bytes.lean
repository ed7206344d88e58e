import AccountRelay.Power

/-! # Byte strings

Byte strings are lists of bytes. `BigEndian.encode` writes a number in a fixed number of bytes,
most significant byte first, and `BigEndian.decode` reads any byte string as a number; each undoes
the other on numbers that fit (`BigEndian.decode_encode`, `BigEndian.encode_decode`). `Octets n` is
a byte string that carries the proof of its length, so an address or a hash cannot be cut short.
-/

namespace AccountRelay

/-- A byte string of any length. -/
abbrev Bytes := List UInt8

/-- The pieces of `size` bytes that a byte string falls into, the last one shorter if need be. -/
def blocks (size : Nat) (bytes : Bytes) : List Bytes :=
  if _progress : size = 0 ∨ bytes = [] then []
  else bytes.take size :: blocks size (bytes.drop size)
termination_by bytes.length
decreasing_by
  have := List.length_pos_iff.mpr (fun empty => _progress (Or.inr empty))
  simp only [List.length_drop]
  omega

/-- The bytes that spell a text in UTF-8. -/
def Bytes.ofText (text : String) : Bytes :=
  text.toUTF8.toList

/-- The text that the bytes spell in UTF-8, if they spell one. -/
def Bytes.text? (bytes : Bytes) : Option String :=
  String.fromUTF8? ⟨bytes.toArray⟩

namespace BigEndian

/-- The last `width` bytes of a number, most significant byte first. -/
def encode : Nat → Nat → Bytes
  | 0, _ => []
  | width + 1, number => encode width (number / 256) ++ [UInt8.ofNat number]

/-- The number a byte string spells in base 256, most significant byte first. -/
def decode (bytes : Bytes) : Nat :=
  bytes.foldl (fun number byte => number * 256 + byte.toNat) 0

/-- An encoding is as long as it was asked to be. -/
@[simp] theorem length_encode (width number : Nat) : (encode width number).length = width := by
  induction width generalizing number with
  | zero => rfl
  | succ width ih => simp [encode, ih]

/-- No bytes spell zero. -/
@[simp] theorem decode_nil : decode [] = 0 := rfl

/-- The last byte is the lowest digit, to the base of 256. -/
@[simp] theorem decode_concat (bytes : Bytes) (byte : UInt8) :
    decode (bytes ++ [byte]) = decode bytes * 256 + byte.toNat := by
  simp [decode]

/-- Writing keeps a number modulo the numbers that fit in the width. -/
theorem decode_encode_mod (width number : Nat) :
    decode (encode width number) = number % 256 ^ width := by
  induction width generalizing number with
  | zero => simp [encode, Nat.mod_one]
  | succ width ih =>
    have step : number % 256 ^ (width + 1) = number / 256 % 256 ^ width * 256 + number % 256 := by
      rw [Nat.pow_succ, Nat.mul_comm (256 ^ width) 256, Nat.mod_mul]
      omega
    simp [encode, ih, step]

/-- A number that fits is read back as written. -/
theorem decode_encode {width number : Nat} (fits : number < 256 ^ width) :
    decode (encode width number) = number := by
  rw [decode_encode_mod, Nat.mod_eq_of_lt fits]

/-- Bytes spell less than the power of 256 with their length as exponent. -/
theorem decode_lt (bytes : Bytes) : decode bytes < 256 ^ bytes.length := by
  rw [← List.reverse_reverse bytes]
  induction bytes.reverse with
  | nil => simp
  | cons byte rest ih =>
    have small := byte.toNat_lt
    have power : 256 ^ (rest.length + 1) = 256 ^ rest.length * 256 := Nat.pow_succ ..
    simp only [List.reverse_cons, decode_concat, List.length_append, List.length_reverse,
      List.length_singleton, power] at ih ⊢
    omega

/-- A byte string is the writing of the number it spells, in its own length. -/
theorem encode_decode (bytes : Bytes) : encode bytes.length (decode bytes) = bytes := by
  rw [← List.reverse_reverse bytes]
  induction bytes.reverse with
  | nil => rfl
  | cons byte rest ih =>
    have small := byte.toNat_lt
    have high : (decode rest.reverse * 256 + byte.toNat) / 256 = decode rest.reverse := by omega
    have low : UInt8.ofNat (decode rest.reverse * 256 + byte.toNat) = byte := by
      apply UInt8.toNat_inj.mp
      simp
    simp only [List.reverse_cons, decode_concat, List.length_append, List.length_singleton, encode,
      high, low, ih]

end BigEndian

/-- A byte string of exactly `size` bytes. -/
structure Octets (size : Nat) where
  /-- The bytes, first byte first. -/
  toList : Bytes
  length_eq : toList.length = size
deriving DecidableEq

namespace Octets

variable {size : Nat}

/-- Octets are told apart by their bytes. -/
theorem toList_injective {left right : Octets size} (same : left.toList = right.toList) :
    left = right := by
  cases left
  cases right
  simpa using same

/-- A byte string of the right length, or nothing. -/
def ofBytes? (size : Nat) (bytes : Bytes) : Option (Octets size) :=
  if same : bytes.length = size then some ⟨bytes, same⟩ else none

/-- Bytes make octets exactly when they have their length, and then stay as they are. -/
theorem ofBytes?_eq_some_iff {bytes : Bytes} {octets : Octets size} :
    ofBytes? size bytes = some octets ↔ bytes = octets.toList := by
  unfold ofBytes?
  split
  · rename_i sized
    rw [Option.some.injEq]
    constructor
    · rintro rfl
      rfl
    · intro same
      exact toList_injective same
  · rename_i unsized
    constructor
    · intro impossible
      cases impossible
    · rintro rfl
      exact absurd octets.length_eq unsized

/-- The last `size` bytes of a number. -/
def ofNat (size number : Nat) : Octets size :=
  ⟨BigEndian.encode size number, BigEndian.length_encode size number⟩

/-- The number the bytes spell, most significant byte first. -/
def toNat (octets : Octets size) : Nat :=
  BigEndian.decode octets.toList

/-- One byte in every position. -/
def filled (size : Nat) (byte : UInt8) : Octets size :=
  ⟨List.replicate size byte, List.length_replicate⟩

/-- Whether every byte is zero. -/
def isZero (octets : Octets size) : Bool :=
  octets.toList.all (· == 0)

instance : Inhabited (Octets size) := ⟨filled size 0⟩

/-- Octets are the encoding of the number they spell. -/
theorem ofNat_toNat (octets : Octets size) : ofNat size octets.toNat = octets := by
  apply toList_injective
  have same := BigEndian.encode_decode octets.toList
  rw [octets.length_eq] at same
  exact same

/-- A number that fits is spelled by its octets. -/
theorem toNat_ofNat {number : Nat} (fits : number < 256 ^ size) :
    (ofNat size number).toNat = number :=
  BigEndian.decode_encode fits

end Octets

/-- The 20 bytes that name an account. -/
abbrev Address := Octets 20

-- With it, membership in a list of addresses is decided by the same term wherever it is decided.
instance : LawfulBEq Address := inferInstance

/-- A 32-byte word of call data or of a packed operation. -/
abbrev Word := Octets 32

/-- A 32-byte digest. -/
abbrev Hash := Octets 32

/-- The 32 bytes a wallet's address is derived from, next to its owner. -/
abbrev Salt := Octets 32

end AccountRelay
