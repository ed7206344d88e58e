import AccountRelay.Json.Node

/-! # Records in JSON documents

A record with named fields is written as an object, or as an array of the fields in their declared
order. In an object the order of the members does not matter and members under other keys are passed
over; a field that is given twice, or a key that is no text, makes the object unreadable. In an
array, fields at the end may be left out.
-/

namespace AccountRelay.Json.Node

/-- The members of an object with their keys as texts. -/
def keyed? (members : List (List Piece × Node)) : Option (List (String × Node)) :=
  members.mapM fun (key, node) => (Piece.text? key).map (·, node)

/-- The node of the only member under a key: nothing when there is none, and a failure when there
are more. -/
def only? (members : List (String × Node)) (key : String) : Option (Option Node) :=
  match members.filter (·.1 = key) with
  | [] => some none
  | [(_, node)] => some (some node)
  | _ => none

/-- What a record gives for each of its fields. -/
def fields? (keys : List String) : Node → Option (List (Option Node))
  | .object members => do
    let members ← keyed? members
    keys.mapM (only? members)
  | .array items =>
    if keys.length < items.length then none
    else some (items.map some ++ List.replicate (keys.length - items.length) none)
  | _ => none

/-- The text of a string. -/
def text? : Node → Option String
  | .string pieces => Piece.text? pieces
  | _ => none

/-- A whole number of 64 bits. -/
def uint64? : Node → Option UInt64
  | .number literal => (literal.below? UInt64.size).map UInt64.ofNat
  | _ => none

/-- A value that may be missing or null. -/
def optional? {α : Type} (read : Node → Option α) : Option Node → Option (Option α)
  | none => some none
  | some .null => some none
  | some node => (read node).map some

end AccountRelay.Json.Node
