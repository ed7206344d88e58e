import AccountRelay.Deployment.Document
import AccountRelay.Lookup
import AccountRelay.Relay
import AccountRelay.Url.Check
import AccountRelay.WalletCall

/-! # The program

What each command does, as work for a machine. A command reads all that its caller wrote, then looks
into the registry where the wallet has to be recorded, and only then connects; so nothing goes over
the network for a value that does not parse or for a wallet of somebody else. Connecting loads the
deployment and makes sure that the node follows the deployment's chain.
-/

namespace AccountRelay.Program

open CommandLine (Command CommonOptions OperationOptions)

/-- How the program ends early. -/
inductive Stop
  | usage (fault : CommandLine.UsageFault)
  | failure (failure : Failure)

/-- The file of settings that are added to the environment. -/
def settingsPath : String := ".env"

/-- How often a receipt is looked up at most, which is more often than anybody waits for. -/
def lookupRounds : Nat := UInt64.size

/-- A value that a caller wrote. -/
def written {α : Type} (value : Except InputError α) : MachineWork α :=
  .ofExcept (value.mapError .input)

/-- Loads the deployment that the options name. -/
def loadDeployment (settings : Settings) (options : CommonOptions) : MachineWork Deployment :=
  (Deployment.load options.deployment options.rpc options.bundler).interpret
    (I := Files.sum Environment) fun
      | .inl question => Machine.request (.file question)
      | .inr name => Machine.ofEnvironment (settings.lookUp name)

/-- Loads the deployment and makes sure that the node follows its chain. -/
def connect (settings : Settings) (options : CommonOptions) : MachineWork Deployment := do
  let deployment ← loadDeployment settings options
  .ofExcept ((Url.check deployment.rpcUrl).mapError fun fault =>
    .within (.nodeUrl deployment.rpcUrl) (.invalidUrl fault))
  (Relay.ofDeployment deployment none none).consult (Lookup.ensureChain deployment.chainId)
  return deployment

/-- The key in the options that owns the wallets. -/
def ownerKey (text : Option String) : Except Failure SecretKey :=
  SecretKey.ofSetting CommandLine.ownerKeySetting text

/-- The key in the options of the paymaster's signer; where nobody needs it, any fault of it is
forgiven. -/
def paymasterKey (options : OperationOptions) : Except Failure (Option SecretKey) :=
  match SecretKey.ofSetting CommandLine.paymasterKeySetting options.paymasterKey with
  | .ok key => .ok (some key)
  | .error failure => if options.noPaymaster then .ok none else .error failure

/-- What a command works with that submits an operation. -/
structure Session where
  pipeline : Pipeline
  relay : Relay

/-- Connects, and gets the keys ready. -/
def openSession (settings : Settings) (options : OperationOptions) : MachineWork Session := do
  let deployment ← connect settings options.toCommonOptions
  let owner ← .ofExcept (ownerKey options.ownerKey)
  let paymaster ← .ofExcept (paymasterKey options)
  return {
    pipeline := { deployment, owner := owner.address }
    relay := .ofDeployment deployment (some owner) paymaster }

/-- The paymaster that pays, unless the wallet pays for itself. -/
def Session.paymaster (session : Session) (options : OperationOptions) : Option Address :=
  if options.noPaymaster then none else some session.pipeline.deployment.paymaster

/-- The receipt of an operation, after waiting for it. A wait without a time limit lasts until there
is a receipt; that all rounds are used up, which is told as a wait that timed out, stands for such a
wait that never ends. -/
def awaitReceipt (relay : Relay) (hash : Hash) (interval timeout : Duration) :
    MachineWork Receipt := do
  match ← relay.consult (Submission.wait hash interval timeout lookupRounds) with
  | some receipt => return receipt
  | none => .fail (.timedOut timeout)

/-- A truth value in words. -/
def truthText (value : Bool) : String :=
  if value then "true" else "false"

/-- Tells of an operation that was submitted, and of its receipt when that is waited for. -/
def report (session : Session) (options : OperationOptions) (hash : Hash) : MachineWork Unit := do
  Machine.print ("userOpHash: " ++ hash.toText)
  if options.wait then
    let receipt ← (awaitReceipt session.relay hash (.ofSeconds 2)
      (.ofSeconds options.maxWaitSeconds.toNat)).mapError (.within .awaitReceipt)
    Machine.print ("success:    " ++ truthText receipt.success)
    match receipt.reason with
    | some reason => Machine.print ("reason:     " ++ reason)
    | none => return ()

/-- Submits an operation and tells of it. -/
def submit (settings : Settings) (options : OperationOptions) (wallet : WalletChoice)
    (callData : Bytes) : MachineWork Unit := do
  let session ← openSession settings options
  let hash ← session.relay.consult (session.pipeline.send
    { wallet, callData, paymaster := session.paymaster options })
  report session options hash

/-- Shows the wallet of a salt. -/
def showAccount (settings : Settings) (options : CommonOptions) (key : Option String)
    (salt : String) : MachineWork Unit := do
  let salt ← written (Input.salt salt)
  let deployment ← connect settings options
  let owner ← .ofExcept (ownerKey key)
  let resolver : Resolver := {
    owner := owner.address
    factory := deployment.accountFactory
    initialFunding := 0 }
  let relay := Relay.ofDeployment deployment (some owner) none
  let wallet ← relay.consult (resolver.inspect (.derived salt))
  Machine.printAll [
    "chainId:        " ++ Numeral.decimal deployment.chainId.toNat,
    "entryPoint:     " ++ deployment.entryPoint.toText,
    "factory:        " ++ deployment.accountFactory.toText,
    "owner:          " ++ owner.address.toText,
    "salt:           " ++ salt.toText,
    "wallet:         " ++ wallet.sender.toText,
    "isDeployed:     " ++ truthText wallet.deployed]

/-- Has the next wallet of the registry deployed, with the registry's lock in hand. -/
def createLocked (settings : Settings) (options : OperationOptions) : MachineWork Unit := do
  let registry ← Machine.ofFiles (Registry.load options.registry)
  let session ← openSession settings options
  let creation ← session.relay.record
    (session.pipeline.createWallet registry (session.paymaster options))
  let record ← .ofExcept creation.outcome
  Machine.print ("wallet:     " ++ record.address.toText)
  match record.operationHash with
  | some hash => report session options hash
  | none => return ()

/-- Has the next wallet of the registry deployed. The lock is given back whatever comes of it. -/
def createWallet (settings : Settings) (options : OperationOptions) : MachineWork Unit := do
  let token ← Machine.ofFiles (Registry.lock options.registry)
  let outcome ← (createLocked settings options).attempt
  Machine.request (.file (.unlock token))
  .ofExcept outcome

/-- Shows the wallets of the registry. -/
def listWallets (options : CommonOptions) : MachineWork Unit := do
  let registry ← Machine.ofFiles (Registry.load options.registry)
  Machine.print (Json.Node.pretty (.array (registry.records.map WalletRecord.toNode)))

/-- Submits an operation with any call data. -/
def send (settings : Settings) (options : OperationOptions) (wallet salt : Option String)
    (callData : String) : MachineWork Unit := do
  let salt ← written (salt.mapM Input.salt)
  let wallet ← written (wallet.mapM (Input.address "wallet"))
  let wallet ← written (WalletChoice.ofParts salt wallet)
  let callData ← written (Input.bytes "callData" callData)
  submit settings options wallet callData

/-- Sends the chain's own currency out of a wallet. -/
def transferEth (settings : Settings) (options : OperationOptions)
    (wallet recipient amount : String) : MachineWork Unit := do
  let wallet ← written (Input.address "wallet" wallet)
  let recipient ← written (Input.address "to" recipient)
  let amount ← written (Input.amount "amount" amount)
  Machine.ofFiles (Registry.requireRegistered options.registry wallet)
  submit settings options (.existing wallet) (WalletCall.withdrawEth recipient amount)

/-- Sends a token out of a wallet. -/
def transferToken (settings : Settings) (options : OperationOptions)
    (wallet token recipient amount : String) : MachineWork Unit := do
  let wallet ← written (Input.address "wallet" wallet)
  let token ← written (Input.address "token" token)
  let recipient ← written (Input.address "to" recipient)
  let amount ← written (Input.amount "amount" amount)
  Machine.ofFiles (Registry.requireRegistered options.registry wallet)
  submit settings options (.existing wallet) (WalletCall.withdrawToken token recipient amount)

/-- Shows what a wallet has. -/
def showBalance (settings : Settings) (options : CommonOptions) (wallet : String)
    (token : Option String) : MachineWork Unit := do
  let wallet ← written (Input.address "wallet" wallet)
  let token ← written (token.mapM (Input.address "token"))
  Machine.ofFiles (Registry.requireRegistered options.registry wallet)
  let deployment ← connect settings options
  let balance ← (Relay.ofDeployment deployment none none).consult (Lookup.balance wallet token)
  Machine.print balance.toDecimal

/-- A receipt as a line. -/
def receiptText (receipt : Receipt) : String :=
  let reason := match receipt.reason with
    | some reason => Json.quoteText reason.toList
    | none => "null".toList
  "\x7b\"success\":" ++ truthText receipt.success ++
    ",\"reason\":" ++ String.ofList reason ++ "\x7d"

/-- Shows how an operation did. -/
def showStatus (settings : Settings) (options : CommonOptions) (hash : String) (wait : Bool)
    (timeout interval : Duration) : MachineWork Unit := do
  let hash ← .ofExcept (Hash.ofCaller hash)
  let deployment ← loadDeployment settings options
  let relay := Relay.ofDeployment deployment none none
  let receipt ← if wait then awaitReceipt relay hash interval timeout
    else relay.consult (Submission.status hash)
  Machine.print (receiptText receipt)

/-- Does what a command says. -/
def runCommand (settings : Settings) : Command → MachineWork Unit
  | .account options key salt => showAccount settings options key salt
  | .createWallet options => createWallet settings options
  | .listWallets options => listWallets options
  | .send options wallet salt callData => send settings options wallet salt callData
  | .transferEth options wallet recipient amount =>
    transferEth settings options wallet recipient amount
  | .transferToken options wallet token recipient amount =>
    transferToken settings options wallet token recipient amount
  | .balance options wallet token => showBalance settings options wallet token
  | .status options hash wait maxWaitSeconds pollIntervalMilliseconds =>
    showStatus settings options hash wait (.ofSeconds maxWaitSeconds.toNat)
      (.ofMilliseconds pollIntervalMilliseconds.toNat)

/-- The settings in the file of settings. -/
def loadSettings : MachineWork Settings := do
  match ← Machine.ofFiles (Files.content? settingsPath) with
  | some content => Machine.ofEnvironment (Settings.assign [] (EnvironmentFile.read content))
  | none => return []

/-- Runs the program with the words of a command line. -/
def run (words : List String) : Dialogue Machine Stop Unit := do
  let settings ← loadSettings.mapError .failure
  let values ← Machine.ofEnvironment (settings.select CommandLine.settingNames)
  match CommandLine.read values words with
  | .error fault => .fail (.usage fault)
  | .ok command => (runCommand settings command).mapError .failure

end AccountRelay.Program
