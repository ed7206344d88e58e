import AccountRelay.Registry.Record
import AccountRelay.Storage.Files
import AccountRelay.Storage.Path

/-! # Registries of wallets

A registry is a list of records and the path it is kept under. A change is written to a temporary
file that then takes the registry's name, so the document under that name is always a whole one. Who
allocates salts holds the lock next to the registry.
-/

namespace AccountRelay

/-- The wallets recorded under a path. -/
structure Registry where
  path : String
  records : List WalletRecord
deriving DecidableEq

namespace Registry

/-- The path of the lock of a registry. -/
def lockPath (path : String) : String :=
  Path.withExtension path "lock"

/-- The path under which a registry is written before it takes its name. -/
def tempPath (path : String) : String :=
  Path.withExtension path "json.tmp"

/-- The number of wallets. -/
def count (registry : Registry) : UInt64 :=
  UInt64.ofNat registry.records.length

/-- The counter for the salt of the next wallet. -/
def nextSalt (registry : Registry) : UInt64 :=
  registry.count + 1

/-- The record of a wallet. -/
def get? (registry : Registry) (wallet : Address) : Option WalletRecord :=
  registry.records.find? (·.address = wallet)

/-- Opens the registry under a path; where there is no document, there are no wallets. -/
def load (path : String) : FileWork Registry := do
  if ← Files.hasEntry path then
    let text ← Files.readText (.readRegistry path) path
    match Document.read text with
    | some records => return { path, records }
    | none => .fail (.within (.parseRegistry path) (.external .json "document not accepted"))
  else return { path, records := [] }

/-- Makes the directory that a path lies in. -/
def makeDirectory (path : String) : FileWork Unit :=
  match Path.directory? path with
  | some directory => Files.createDirectories (.createRegistryDirectory directory) directory
  | none => .done ()

/-- Takes the lock of the registry under a path, and fails at once when somebody else has it. -/
def lock (path : String) : FileWork LockToken := do
  makeDirectory path
  let lockPath := lockPath path
  Files.asking (.lock lockPath) fun
    | .ok token => .done token
    | .error (.unopened fault) => .fail (.within (.openLockFile lockPath) (Files.failure fault))
    | .error (.taken fault) => .fail (.registryLocked lockPath fault)

/-- Writes the document of the registry under its path. -/
def save (registry : Registry) : FileWork Unit := do
  makeDirectory registry.path
  let temporary := tempPath registry.path
  Files.write (.writeTempRegistry temporary) temporary (Document.render registry.records)
  Files.asking (.rename temporary registry.path) fun
    | .ok () => .done ()
    | .error fault => .fail (.replaceRegistry registry.path fault)

/-- A registry after an attempt to change it, and how the attempt ended. -/
structure Change where
  registry : Registry
  outcome : Except Failure Unit

/-- Records a wallet and writes the registry. A wallet that is recorded already is refused; a record
that cannot be written stays in memory all the same. -/
def create (registry : Registry) (record : WalletRecord) : FileWork Change := do
  if (registry.get? record.address).isSome then
    return { registry, outcome := .error (.alreadyRegistered record.address) }
  else
    let longer := { registry with records := registry.records ++ [record] }
    let outcome ← longer.save.attempt
    return { registry := longer, outcome }

/-- Refuses a wallet that is not recorded under a path. -/
def requireRegistered (path : String) (wallet : Address) : FileWork Unit := do
  let registry ← load path
  match registry.get? wallet with
  | some _ => return ()
  | none => .fail (.notRegistered wallet path)

end Registry

end AccountRelay
