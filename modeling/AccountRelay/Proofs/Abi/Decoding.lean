import AccountRelay.Contracts
import AccountRelay.Proofs.Abi

/-! # Reading arguments

What a contract makes of the data of a call by the types that it declares. A reader looks for the head
of each argument where the heads before it end, and for a tail at the distance that its head tells; an
address, a number or a byte string that its type does not have, or filling that is not zero, is
refused. Values are read back from the encoding of their arguments (`Abi.decode_encode`), as long as
no distance is too large for a word, whatever follows.
-/

namespace AccountRelay.Abi

/-- The declared type of an argument. -/
inductive Kind
  | address
  | uint (width : Nat)
  | bytes32
  | bytes
  | tuple (items : List Kind)

/-- What an argument stands for. -/
inductive Value
  | address (address : Address)
  | number (width value : Nat)
  | word (word : Word)
  | bytes (bytes : Bytes)
  | tuple (items : List Value)

namespace Kind

mutual

/-- The name of a type in the signature of a function. -/
def name : Kind → String
  | .address => "address"
  | .uint width => "uint" ++ Numeral.decimal width
  | .bytes32 => "bytes32"
  | .bytes => "bytes"
  | .tuple items => "(" ++ ",".intercalate (names items) ++ ")"

/-- The names of several types. -/
def names : List Kind → List String
  | [] => []
  | kind :: rest => kind.name :: names rest

end

mutual

/-- Whether the arguments of a type have a tail. -/
def isDynamic : Kind → Bool
  | .address | .uint _ | .bytes32 => false
  | .bytes => true
  | .tuple items => anyDynamic items

/-- Whether the arguments of any of the types have a tail. -/
def anyDynamic : List Kind → Bool
  | [] => false
  | kind :: rest => kind.isDynamic || anyDynamic rest

end

mutual

/-- The number of bytes in the head of an argument of a type. -/
def headSize : Kind → Nat
  | .address | .uint _ | .bytes32 | .bytes => 32
  | .tuple items => if anyDynamic items then 32 else headsSize items

/-- The number of bytes in the heads of arguments. -/
def headsSize : List Kind → Nat
  | [] => 0
  | kind :: rest => kind.headSize + headsSize rest

end

end Kind

namespace Value

mutual

/-- The type of a value. -/
def kind : Value → Kind
  | .address _ => .address
  | .number width _ => .uint width
  | .word _ => .bytes32
  | .bytes _ => .bytes
  | .tuple items => .tuple (kinds items)

/-- The types of values. -/
def kinds : List Value → List Kind
  | [] => []
  | value :: rest => value.kind :: kinds rest

end

mutual

/-- The argument that stands for a value. -/
def argument : Value → Argument
  | .address account => .ofAddress account
  | .number _ value => .word (Octets.ofNat 32 value)
  | .word content => .word content
  | .bytes content => .bytes content
  | .tuple items => .tuple (arguments items)

/-- The arguments that stand for values. -/
def arguments : List Value → List Argument
  | [] => []
  | value :: rest => value.argument :: arguments rest

end

mutual

/-- Whether the numbers of a value are as narrow as their types, and those no wider than a word. -/
def IsNarrow : Value → Prop
  | .number width value => width ≤ 256 ∧ value < 2 ^ width
  | .tuple items => AreNarrow items
  | .address _ | .word _ | .bytes _ => True

/-- Whether the numbers of all values are as narrow as their types. -/
def AreNarrow : List Value → Prop
  | [] => True
  | value :: rest => value.IsNarrow ∧ AreNarrow rest

end

end Value

/-- The word at a position. -/
def wordAt (frame : Bytes) (position : Nat) : Option Word :=
  Octets.ofBytes? 32 ((frame.drop position).take 32)

/-- The byte string whose length is at a position, filled up with zeros. -/
def bytesAt (frame : Bytes) (position : Nat) : Option Bytes := do
  let length := (← wordAt frame position).toNat
  let content := (frame.drop (position + 32)).take length
  if content.length = length ∧ filledUp content <+: frame.drop (position + 32) then some content
  else none

mutual

/-- Reads an argument whose head is at a position of the frame that holds all heads and tails. -/
def Kind.read : Kind → Bytes → Nat → Option Value
  | .address, frame, position => do
    let word ← wordAt frame position
    if word.toList.take 12 = List.replicate 12 0 then some (.address word.toAddress) else none
  | .uint width, frame, position => do
    let word ← wordAt frame position
    if word.toNat < 2 ^ width then some (.number width word.toNat) else none
  | .bytes32, frame, position => (wordAt frame position).map .word
  | .bytes, frame, position => do
    let distance ← wordAt frame position
    (bytesAt frame distance.toNat).map .bytes
  | .tuple items, frame, position =>
    if Kind.anyDynamic items then do
      let distance ← wordAt frame position
      (Kind.readAll items (frame.drop distance.toNat) 0).map .tuple
    else (Kind.readAll items (frame.drop position) 0).map .tuple

/-- Reads arguments whose heads start at a position. -/
def Kind.readAll : List Kind → Bytes → Nat → Option (List Value)
  | [], _, _ => some []
  | kind :: rest, frame, position => do
    let value ← kind.read frame position
    let others ← Kind.readAll rest frame (position + kind.headSize)
    return value :: others

end

/-- Reads the arguments of a call. -/
def decode (kinds : List Kind) (data : Bytes) : Option (List Value) :=
  Kind.readAll kinds data 0

/-- The signature of a function. -/
def signature (name : String) (kinds : List Kind) : String :=
  name ++ (Kind.tuple kinds).name

/-- Reads the data of a call of a function. -/
def decodeCall (name : String) (kinds : List Kind) (data : Bytes) : Option (List Value) :=
  if data.take 4 = selector (signature name kinds) then decode kinds (data.drop 4) else none

/-! ## Heads and tails -/

mutual

/-- The type of a value has a tail when its argument does. -/
theorem Value.isDynamic_kind : (value : Value) → value.kind.isDynamic = value.argument.isDynamic
  | .address _ | .number _ _ | .word _ | .bytes _ => rfl
  | .tuple items => Value.anyDynamic_kinds items

/-- Among types there is one with a tail when there is one among the arguments. -/
theorem Value.anyDynamic_kinds :
    (values : List Value) → Kind.anyDynamic (kinds values) = anyDynamic (arguments values)
  | [] => rfl
  | value :: rest => by
    rw [kinds, arguments, Kind.anyDynamic, anyDynamic, Value.isDynamic_kind value,
      Value.anyDynamic_kinds rest]

end

mutual

/-- The head of a type is as long as that of the argument. -/
theorem Value.headSize_kind : (value : Value) → value.kind.headSize = value.argument.headSize
  | .address _ | .number _ _ | .word _ | .bytes _ => rfl
  | .tuple items => by
    rw [kind, argument, Kind.headSize, Argument.headSize, Value.anyDynamic_kinds items,
      Value.headsSize_kinds items]

/-- The heads of types are together as long as those of the arguments. -/
theorem Value.headsSize_kinds :
    (values : List Value) → Kind.headsSize (kinds values) = headsSize (arguments values)
  | [] => rfl
  | value :: rest => by
    rw [kinds, arguments, Kind.headsSize, headsSize, Value.headSize_kind value,
      Value.headsSize_kinds rest]

end

/-- A length takes one word. -/
theorem length_lengthWord (length : Nat) : (lengthWord length).length = 32 :=
  BigEndian.length_encode 32 length

/-- The head of an argument with a tail is one word. -/
theorem Argument.headSize_of_isDynamic {argument : Argument} (dynamic : argument.isDynamic = true) :
    argument.headSize = 32 := by
  cases argument with
  | word => cases dynamic
  | bytes => rfl
  | tuple items =>
      rw [Argument.isDynamic] at dynamic
      rw [Argument.headSize, if_pos dynamic]

/-- Heads and tails are those of the first argument in front of those of the rest, which start behind
its tail. -/
theorem headsAndTails_cons (distance : Nat) (item : Argument) (rest : List Argument) :
    headsAndTails distance (item :: rest) =
      if item.isDynamic then
        (lengthWord distance ++ (headsAndTails (distance + item.encoded.length) rest).1,
          item.encoded ++ (headsAndTails (distance + item.encoded.length) rest).2)
      else
        (item.encoded ++ (headsAndTails distance rest).1, (headsAndTails distance rest).2) := by
  rw [headsAndTails]

mutual

/-- An argument without a tail is its head. -/
theorem Argument.length_encoded : (argument : Argument) → argument.isDynamic = false →
    argument.encoded.length = argument.headSize
  | .word word, _ => word.length_eq
  | .bytes _, dynamic => nomatch dynamic
  | .tuple items, static => by
    rw [Argument.isDynamic] at static
    rw [Argument.encoded, Argument.headSize, static]
    simp [length_heads, tails_eq_nil items _ static]

/-- The heads of arguments are as long as their sizes say. -/
theorem length_heads : (items : List Argument) → (distance : Nat) →
    (headsAndTails distance items).1.length = headsSize items
  | [], _ => rfl
  | item :: rest, distance => by
    rw [headsAndTails_cons, headsSize]
    split
    · rename_i dynamic
      rw [List.length_append, length_lengthWord, length_heads rest,
        Argument.headSize_of_isDynamic dynamic]
    · rename_i static
      rw [List.length_append, length_heads rest, item.length_encoded (Bool.eq_false_iff.mpr static)]

/-- Arguments without tails have none. -/
theorem tails_eq_nil : (items : List Argument) → (distance : Nat) → anyDynamic items = false →
    (headsAndTails distance items).2 = []
  | [], _, _ => rfl
  | item :: rest, distance, static => by
    rw [anyDynamic, Bool.or_eq_false_iff] at static
    rw [headsAndTails_cons, static.1]
    exact tails_eq_nil rest distance static.2

end

/-! ## Reading back -/

section Reading

variable {frame : Bytes} {position distance : Nat}

/-- Of two parts that stand at a position the second stands where the first ends. -/
theorem prefix_of_append_prefix {front back : Bytes} (stands : front ++ back <+: frame.drop position) :
    front <+: frame.drop position ∧ back <+: frame.drop (position + front.length) := by
  refine ⟨(List.prefix_append front back).trans stands, ?_⟩
  obtain ⟨rest, same⟩ := stands
  rw [← List.drop_drop, ← same, List.append_assoc, List.drop_left]
  exact List.prefix_append back rest

/-- A word that stands at a position is read there. -/
theorem wordAt_of_prefix {word : Word} (stands : word.toList <+: frame.drop position) :
    wordAt frame position = some word := by
  have taken := List.prefix_iff_eq_take.mp stands
  rw [word.length_eq] at taken
  exact Octets.ofBytes?_eq_some_iff.mpr taken.symm

/-- A distance that stands at a position is read there as a word. -/
theorem wordAt_of_lengthWord (stands : lengthWord distance <+: frame.drop position) :
    wordAt frame position = some (Octets.ofNat 32 distance) := by
  have spelled : (Octets.ofNat 32 distance).toList <+: frame.drop position := stands
  exact wordAt_of_prefix spelled

/-- A byte string that stands at a position with its length in front is read there, if the length fits
into a word. -/
theorem bytesAt_of_prefix {content : Bytes} (short : content.length < 256 ^ 32)
    (stands : (Argument.bytes content).encoded <+: frame.drop position) :
    bytesAt frame position = some content := by
  obtain ⟨measured, filled⟩ := prefix_of_append_prefix stands
  rw [length_lengthWord] at filled
  have taken : (frame.drop (position + 32)).take content.length = content := by
    have first := (List.prefix_append content _).trans filled
    exact (List.prefix_iff_eq_take.mp first).symm
  simp only [bytesAt, wordAt_of_lengthWord measured, Octets.toNat_ofNat short, Option.bind_eq_bind,
    Option.bind_some, taken, true_and]
  exact if_pos filled

/-- An argument stands in a frame: in its head, or with a head that tells the distance of its tail. -/
def Argument.StandsAt (argument : Argument) (frame : Bytes) (position distance : Nat) : Prop :=
  if argument.isDynamic then
    distance + argument.encoded.length < 256 ^ 32 ∧ lengthWord distance <+: frame.drop position ∧
      argument.encoded <+: frame.drop distance
  else argument.encoded <+: frame.drop position

/-- An argument without a tail stands where its encoding does. -/
theorem Argument.StandsAt.of_static {argument : Argument} (static : argument.isDynamic = false)
    (stands : argument.encoded <+: frame.drop position) :
    argument.StandsAt frame position distance := by
  rwa [StandsAt, static]

/-- An argument with a tail stands where its distance does, if its encoding stands at the distance. -/
theorem Argument.StandsAt.of_dynamic {argument : Argument} (dynamic : argument.isDynamic = true)
    (near : distance + argument.encoded.length < 256 ^ 32)
    (head : lengthWord distance <+: frame.drop position)
    (tail : argument.encoded <+: frame.drop distance) :
    argument.StandsAt frame position distance := by
  rw [StandsAt, dynamic]
  exact ⟨near, head, tail⟩

/-- An address that stands at a position is read there. -/
theorem read_address {account : Address}
    (stands : (Word.ofAddress account).toList <+: frame.drop position) :
    Kind.address.read frame position = some (.address account) := by
  have padded : (Word.ofAddress account).toList.take 12 = List.replicate 12 0 :=
    List.take_left' List.length_replicate
  have low : (Word.ofAddress account).toAddress = account :=
    Octets.toList_injective (List.drop_left' List.length_replicate)
  simp only [Kind.read, wordAt_of_prefix stands, Option.bind_eq_bind, Option.bind_some, padded, low,
    if_true]

/-- A number that stands at a position is read there, if its type is wide enough. -/
theorem read_number {width value : Nat} (narrow : width ≤ 256 ∧ value < 2 ^ width)
    (stands : (Octets.ofNat 32 value).toList <+: frame.drop position) :
    (Kind.uint width).read frame position = some (.number width value) := by
  have fits : value < 256 ^ 32 :=
    Nat.lt_of_lt_of_le narrow.2 (Nat.le_trans (Nat.pow_le_pow_right (by decide) narrow.1)
      (by decide))
  simp only [Kind.read, wordAt_of_prefix stands, Option.bind_eq_bind, Option.bind_some,
    Octets.toNat_ofNat fits, narrow.2, if_true]

/-- A byte string is read where its argument stands. -/
theorem read_bytes {content : Bytes}
    (stands : (Argument.bytes content).StandsAt frame position distance) :
    Kind.bytes.read frame position = some (.bytes content) := by
  obtain ⟨near, head, tail⟩ := stands
  have long : content.length ≤ (Argument.bytes content).encoded.length := by
    simp only [Argument.encoded, filledUp, List.length_append]
    omega
  simp only [Kind.read, wordAt_of_lengthWord head, Option.bind_eq_bind, Option.bind_some,
    Octets.toNat_ofNat (show distance < 256 ^ 32 by omega),
    bytesAt_of_prefix (show content.length < 256 ^ 32 by omega) tail, Option.map_some]

/-- Values that are read back wherever the heads and the tails of their arguments stand. -/
def Value.AreReadBack (values : List Value) : Prop :=
  ∀ (frame : Bytes) (position distance : Nat),
    (headsAndTails distance (arguments values)).1 <+: frame.drop position →
    (headsAndTails distance (arguments values)).2 <+: frame.drop distance →
    (anyDynamic (arguments values) = true →
      distance + (headsAndTails distance (arguments values)).2.length < 256 ^ 32) →
    Kind.readAll (kinds values) frame position = some values

/-- A tuple is read where its argument stands, if its items are read back. -/
theorem read_tuple {items : List Value} (reads : Value.AreReadBack items)
    (stands : (Value.tuple items).argument.StandsAt frame position distance) :
    (Value.tuple items).kind.read frame position = some (.tuple items) := by
  let size := headsSize (Value.arguments items)
  let parts := headsAndTails size (Value.arguments items)
  have content : (Value.tuple items).argument.encoded = parts.1 ++ parts.2 := rfl
  -- Inside a tuple positions and distances count from where its own heads start.
  have inside (start : Nat) (stands : parts.1 ++ parts.2 <+: frame.drop start)
      (near : anyDynamic (Value.arguments items) = true → size + parts.2.length < 256 ^ 32) :
      Kind.readAll (Value.kinds items) (frame.drop start) 0 = some items := by
    obtain ⟨heads, tails⟩ := prefix_of_append_prefix stands
    rw [length_heads] at tails
    exact reads (frame.drop start) 0 size heads (by rwa [List.drop_drop]) near
  rw [Value.kind, Kind.read, Value.anyDynamic_kinds]
  cases dynamic : anyDynamic (Value.arguments items) with
  | true =>
      have unfolded : (Value.tuple items).argument.isDynamic = true := dynamic
      rw [Argument.StandsAt, unfolded, if_pos rfl, content] at stands
      obtain ⟨near, head, tail⟩ := stands
      rw [List.length_append, length_heads] at near
      simp only [if_true, wordAt_of_lengthWord head, Option.bind_eq_bind, Option.bind_some,
        Octets.toNat_ofNat (show distance < 256 ^ 32 by omega)]
      rw [inside distance tail fun _ => by omega]
      rfl
  | false =>
      have unfolded : (Value.tuple items).argument.isDynamic = false := dynamic
      rw [Argument.StandsAt, unfolded, if_neg (by decide), content] at stands
      rw [if_neg (by decide), inside position stands fun some_dynamic => by
        rw [dynamic] at some_dynamic
        cases some_dynamic]
      rfl

/-- Values are read back if the first is, wherever it stands, and the others are. -/
theorem areReadBack_cons {value : Value} {rest : List Value}
    (reads : ∀ frame position distance, value.argument.StandsAt frame position distance →
      value.kind.read frame position = some value)
    (others : Value.AreReadBack rest) : Value.AreReadBack (value :: rest) := by
  intro frame position distance heads tails near
  rw [Value.arguments, headsAndTails_cons] at heads tails near
  rw [Value.kinds, Kind.readAll, Value.headSize_kind]
  cases dynamic : value.argument.isDynamic with
  | true =>
      simp only [dynamic, if_true, anyDynamic, Bool.true_or, forall_const, List.length_append]
        at heads tails near
      obtain ⟨head, heads⟩ := prefix_of_append_prefix heads
      obtain ⟨tail, tails⟩ := prefix_of_append_prefix tails
      rw [length_lengthWord] at heads
      rw [reads frame position distance (.of_dynamic dynamic (by omega) head tail),
        Argument.headSize_of_isDynamic dynamic,
        others frame (position + 32) _ heads tails fun _ => by omega]
      rfl
  | false =>
      simp only [dynamic, anyDynamic, Bool.false_or, Bool.false_eq_true, if_false]
        at heads tails near
      obtain ⟨head, heads⟩ := prefix_of_append_prefix heads
      rw [value.argument.length_encoded dynamic] at heads
      rw [reads frame position distance (.of_static dynamic head),
        others frame _ distance heads tails near]
      rfl

mutual

/-- A value is read back where its argument stands. -/
theorem Value.read_kind : (value : Value) → value.IsNarrow → (frame : Bytes) →
    (position distance : Nat) → value.argument.StandsAt frame position distance →
    value.kind.read frame position = some value
  | .address _, _, _, _, _, stands => read_address stands
  | .number _ _, narrow, _, _, _, stands => read_number narrow stands
  | .word content, _, frame, position, _, stands => by
    have stands : content.toList <+: frame.drop position := stands
    rw [kind, Kind.read, wordAt_of_prefix stands]
    rfl
  | .bytes _, _, _, _, _, stands => read_bytes stands
  | .tuple items, narrow, _, _, _, stands => read_tuple (Value.readAll_kinds items narrow) stands

/-- Values are read back where the heads and the tails of their arguments stand. -/
theorem Value.readAll_kinds : (values : List Value) → AreNarrow values → AreReadBack values
  | [], _ => fun _ _ _ _ _ _ => rfl
  | value :: rest, narrow =>
    areReadBack_cons (Value.read_kind value narrow.1) (Value.readAll_kinds rest narrow.2)

end

/-- **Values are read back from the encoding of their arguments**, whatever follows. -/
theorem decode_encode (values : List Value) (narrow : Value.AreNarrow values)
    (near : (encode (Value.arguments values)).length < 256 ^ 32) (rest : Bytes) :
    decode (Value.kinds values) (encode (Value.arguments values) ++ rest) = some values := by
  have content : encode (Value.arguments values) =
      (headsAndTails (headsSize (Value.arguments values)) (Value.arguments values)).1 ++
        (headsAndTails (headsSize (Value.arguments values)) (Value.arguments values)).2 := rfl
  have stands := List.prefix_append (encode (Value.arguments values)) rest
  rw [← List.drop_zero (l := encode (Value.arguments values) ++ rest), content] at stands
  obtain ⟨heads, tails⟩ := prefix_of_append_prefix stands
  rw [← content, length_heads, Nat.zero_add] at tails
  rw [← content] at heads
  rw [content, List.length_append, length_heads] at near
  exact Value.readAll_kinds values narrow _ 0 _ heads tails fun _ => near

/-- Arguments are read when the first is, and the others behind its head. -/
theorem readAll_cons_eq_some_iff {kind : Kind} {kinds : List Kind} {value : Value}
    {others : List Value} :
    Kind.readAll (kind :: kinds) frame position = some (value :: others) ↔
      kind.read frame position = some value ∧
        Kind.readAll kinds frame (position + kind.headSize) = some others := by
  rw [Kind.readAll]
  cases kind.read frame position with
  | none => simp
  | some here =>
    cases Kind.readAll kinds frame (position + kind.headSize) with
    | none => simp
    | some behind => simp

/-- A word is read as it stands. -/
theorem read_bytes32_eq_some_iff {word : Word} :
    Kind.bytes32.read frame position = some (.word word) ↔ wordAt frame position = some word := by
  rw [Kind.read]
  cases wordAt frame position with
  | none => simp
  | some found => simp

/-- A word is read as a number of any width that holds it. -/
theorem read_uint_of_wordAt {word : Word} (found : wordAt frame position = some word) (width : Nat) :
    (Kind.uint width).read frame position =
      if word.toNat < 2 ^ width then some (.number width word.toNat) else none := by
  simp only [Kind.read, found, Option.bind_eq_bind, Option.bind_some]

end Reading

/-! ## Lengths -/

mutual

/-- A bound for the length of an argument on its own. -/
def Argument.room : Argument → Nat
  | .word _ => 32
  | .bytes content => 64 + content.length
  | .tuple items => roomOfAll items

/-- A bound for the length of the heads and the tails of arguments. -/
def roomOfAll : List Argument → Nat
  | [] => 0
  | item :: rest => 32 + item.room + roomOfAll rest

end

mutual

/-- No argument is longer than its room. -/
theorem Argument.length_encoded_le : (argument : Argument) → argument.encoded.length ≤ argument.room
  | .word word => Nat.le_of_eq word.length_eq
  | .bytes content => by
    simp only [Argument.encoded, Argument.room, filledUp, List.length_append, length_lengthWord,
      List.length_replicate]
    omega
  | .tuple items => by
    rw [Argument.encoded, Argument.room, List.length_append]
    exact length_headsAndTails_le items _

/-- Heads and tails are together no longer than the room of all arguments. -/
theorem length_headsAndTails_le : (items : List Argument) → (distance : Nat) →
    (headsAndTails distance items).1.length + (headsAndTails distance items).2.length ≤
      roomOfAll items
  | [], _ => Nat.le_refl 0
  | item :: rest, distance => by
    have here := item.length_encoded_le
    rw [headsAndTails_cons, roomOfAll]
    split
    · have behind := length_headsAndTails_le rest (distance + item.encoded.length)
      simp only [List.length_append, length_lengthWord]
      omega
    · have behind := length_headsAndTails_le rest distance
      simp only [List.length_append]
      omega

end

/-- No encoding is longer than the room of its arguments. -/
theorem length_encode_le (arguments : List Argument) :
    (encode arguments).length ≤ roomOfAll arguments :=
  Argument.length_encoded_le (.tuple arguments)

/-! ## Calls -/

/-- Behind the selector of its signature the arguments of a call are decoded. -/
theorem decodeCall_callData {name signature : String} {kinds : List Kind}
    (named : Abi.signature name kinds = signature) (arguments : List Argument) :
    decodeCall name kinds (callData signature arguments) = decode kinds (encode arguments) := by
  have selected : (callData signature arguments).take 4 = selector signature :=
    List.take_left' (length_selector signature)
  have behind : (callData signature arguments).drop 4 = encode arguments :=
    List.drop_left' (length_selector signature)
  rw [decodeCall, named, selected, behind, if_pos rfl]

end AccountRelay.Abi
