import AccountRelay.Crypto.Keccak
import AccountRelay.Uint256.Basic

/-! # Arguments of contract calls

Arguments are encoded as a sequence of heads followed by a sequence of tails, all in words of 32
bytes. The head of a word is the word; the head of a byte string, or of a tuple that holds one, is
the distance of its tail from the first head. The tail of a byte string is its length and then the
bytes, filled up with zeros to whole words.
-/

namespace AccountRelay.Abi

/-- An argument. -/
inductive Argument
  | word (word : Word)
  | bytes (bytes : Bytes)
  | tuple (items : List Argument)

/-- An address as an argument: the low 20 bytes of a word. -/
def Argument.ofAddress (address : Address) : Argument :=
  .word ⟨List.replicate 12 0 ++ address.toList, by simp [address.length_eq]⟩

/-- A number as an argument. -/
def Argument.ofNumber (number : Uint256) : Argument :=
  .word number.toWord

/-- A number of 64 bits as an argument. -/
def Argument.ofUInt64 (number : UInt64) : Argument :=
  .word (Octets.ofNat 32 number.toNat)

/-- The word of a length or a distance. -/
def lengthWord (length : Nat) : Bytes :=
  BigEndian.encode 32 length

/-- A byte string filled up with zeros to whole words. -/
def filledUp (bytes : Bytes) : Bytes :=
  bytes ++ List.replicate ((32 - bytes.length % 32) % 32) 0

mutual

/-- Whether an argument is encoded in a tail. -/
def Argument.isDynamic : Argument → Bool
  | .word _ => false
  | .bytes _ => true
  | .tuple items => anyDynamic items

/-- Whether any of the arguments is encoded in a tail. -/
def anyDynamic : List Argument → Bool
  | [] => false
  | item :: rest => item.isDynamic || anyDynamic rest

/-- The number of bytes in the head of an argument. -/
def Argument.headSize : Argument → Nat
  | .word _ => 32
  | .bytes _ => 32
  | .tuple items => if anyDynamic items then 32 else headsSize items

/-- The number of bytes in the heads of the arguments. -/
def headsSize : List Argument → Nat
  | [] => 0
  | item :: rest => item.headSize + headsSize rest

end

mutual

/-- An argument on its own: what stands in its tail, if it has one. -/
def Argument.encoded : Argument → Bytes
  | .word word => word.toList
  | .bytes bytes => lengthWord bytes.length ++ filledUp bytes
  | .tuple items =>
    let (heads, tails) := headsAndTails (headsSize items) items
    heads ++ tails

/-- The heads and the tails of the arguments, the first tail standing `distance` bytes behind the
first head. -/
def headsAndTails (distance : Nat) : List Argument → Bytes × Bytes
  | [] => ([], [])
  | item :: rest =>
    let content := item.encoded
    if item.isDynamic then
      let (heads, tails) := headsAndTails (distance + content.length) rest
      (lengthWord distance ++ heads, content ++ tails)
    else
      let (heads, tails) := headsAndTails distance rest
      (content ++ heads, tails)

end

/-- The arguments of a call. -/
def encode (arguments : List Argument) : Bytes :=
  (Argument.tuple arguments).encoded

/-- The four bytes that select a function by its signature. -/
def selector (signature : String) : Bytes :=
  (keccak256 (Bytes.ofText signature)).toList.take 4

/-- The data of a call: the selector of the function and its arguments. -/
def callData (signature : String) (arguments : List Argument) : Bytes :=
  selector signature ++ encode arguments

end AccountRelay.Abi
