import AccountRelay.Input
import AccountRelay.Json.Fields
import AccountRelay.Json.Printer
import AccountRelay.Json.Reader

/-! # Wallet records and their document

A registry of wallets is kept as a JSON document with one record a wallet, oldest first.
`Registry.Document.read` undoes `Registry.Document.render`; it also takes documents that were
written by others, with members in another order and with gaps among digits of either case.
-/

namespace AccountRelay

open Json (Node)

/-- A wallet of this operator. -/
structure WalletRecord where
  address : Address
  /-- The counter that the wallet's salt was made of. -/
  salt : UInt64
  /-- When the wallet was recorded, in seconds since the epoch. -/
  createdAt : UInt64
  /-- The operation that deployed the wallet. -/
  operationHash : Option Hash
deriving DecidableEq

namespace WalletRecord

/-- The record as a document. -/
def toNode (record : WalletRecord) : Node :=
  .object [
    (Json.Piece.ofText "address", .ofText record.address.toText),
    (Json.Piece.ofText "salt", .ofNat record.salt.toNat),
    (Json.Piece.ofText "createdAt", .ofNat record.createdAt.toNat),
    (Json.Piece.ofText "userOpHash",
      match record.operationHash with
      | some hash => .ofText hash.toText
      | none => .null)]

/-- The bytes of a string of digits. -/
def octets? (size : Nat) (node : Node) : Option (Octets size) :=
  node.text?.bind fun text => Hex.looseOctets? size text.toList

/-- The record that a document holds. -/
def ofNode? (node : Node) : Option WalletRecord := do
  match ← node.fields? ["address", "salt", "createdAt", "userOpHash"] with
  | [address, salt, createdAt, operationHash] =>
    let address ← address.bind (octets? 20)
    let salt ← salt.bind Node.uint64?
    let createdAt ← createdAt.bind Node.uint64?
    let operationHash ← Node.optional? (octets? 32) operationHash
    return { address, salt, createdAt, operationHash }
  | _ => none

end WalletRecord

namespace Registry.Document

/-- The document of a list of records. -/
def render (records : List WalletRecord) : String :=
  Node.pretty (.object [(Json.Piece.ofText "wallets", .array (records.map WalletRecord.toNode))])

/-- The records of an array. -/
def records? : Node → Option (List WalletRecord)
  | .array items => items.mapM WalletRecord.ofNode?
  | _ => none

/-- The records that a document holds; without a list of wallets there are none. -/
def read (text : String) : Option (List WalletRecord) := do
  let node ← Json.read text.toList
  match ← node.fields? ["wallets"] with
  | [some wallets] => records? wallets
  | _ => return []

end Registry.Document

end AccountRelay
