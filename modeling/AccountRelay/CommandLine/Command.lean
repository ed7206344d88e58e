import AccountRelay.CommandLine.Parameters

/-! # Commands

The commands of the program with what they take, and how a command is read from words. Words lead
through groups of commands to a command; what follows are its parameters. Values are passed on as
they are written, but for numbers.
-/

namespace AccountRelay.CommandLine

/-- What every command takes. -/
structure CommonOptions where
  deployment : String
  rpc : Option String
  bundler : Option String
  registry : String
deriving DecidableEq

/-- What every command takes that submits an operation. -/
structure OperationOptions extends CommonOptions where
  ownerKey : Option String
  paymasterKey : Option String
  /-- Whether the wallet pays for itself. -/
  noPaymaster : Bool
  /-- Whether to wait for the receipt. -/
  wait : Bool
  maxWaitSeconds : UInt64
deriving DecidableEq

/-- A command. -/
inductive Command
  /-- Shows the wallet of a salt. -/
  | account (options : CommonOptions) (ownerKey : Option String) (salt : String)
  /-- Has the next wallet deployed. -/
  | createWallet (options : OperationOptions)
  | listWallets (options : CommonOptions)
  /-- Submits an operation with any call data. -/
  | send (options : OperationOptions) (wallet salt : Option String) (callData : String)
  | transferEth (options : OperationOptions) (wallet recipient amount : String)
  | transferToken (options : OperationOptions) (wallet token recipient amount : String)
  | balance (options : CommonOptions) (wallet : String) (token : Option String)
  /-- Tells how an operation did. -/
  | status (options : CommonOptions) (hash : String) (wait : Bool)
    (maxWaitSeconds pollIntervalMilliseconds : UInt64)
deriving DecidableEq

/-- The setting that holds the owner's key. -/
def ownerKeySetting : String := "AA_OWNER_PRIVATE_KEY"

/-- The setting that holds the key of the paymaster's signer. -/
def paymasterKeySetting : String := "AA_PAYMASTER_SIGNER_PRIVATE_KEY"

/-- The settings that stand in for parameters. -/
def settingNames : List String :=
  ["AA_RPC_URL", "AA_BUNDLER_URL", "AA_WALLET_REGISTRY", ownerKeySetting, paymasterKeySetting]

/-- The parameters that every command takes. -/
def commonParameters : List Parameter := [
  { name := "deployment", kind := .path },
  { name := "rpc", setting := some "AA_RPC_URL" },
  { name := "bundler", setting := some "AA_BUNDLER_URL" },
  { name := "registry", kind := .path, setting := some "AA_WALLET_REGISTRY" }]

/-- The parameter of the owner's key. -/
def ownerKeyParameter : Parameter :=
  { name := "owner-private-key", setting := some ownerKeySetting }

/-- The parameters of every command that submits an operation. -/
def operationParameters : List Parameter :=
  commonParameters ++ [
    ownerKeyParameter,
    { name := "paymaster-signer-private-key", setting := some paymasterKeySetting },
    { name := "no-paymaster", kind := .switch },
    { name := "wait", kind := .switch },
    { name := "max-wait-seconds", kind := .count }]

/-- A parameter that has to be given. -/
def needed (name : String) : Parameter :=
  { name, isRequired := true }

namespace Arguments

/-- The value of a parameter, or its default. -/
def text (arguments : Arguments) (name default : String) : String :=
  (arguments.lookup name).getD default

/-- Whether a switch is given. -/
def switch (arguments : Arguments) (name : String) : Bool :=
  (arguments.lookup name).isSome

/-- The number given for a parameter, or its default. -/
def count (arguments : Arguments) (name : String) (default : UInt64) : UInt64 :=
  ((arguments.lookup name).bind fun value => Input.counter? value.toList).getD default

/-- What every command takes. -/
def common (arguments : Arguments) : CommonOptions where
  deployment := arguments.text "deployment" "deployments/base-sepolia.json"
  rpc := arguments.lookup "rpc"
  bundler := arguments.lookup "bundler"
  registry := arguments.text "registry" "data/wallets.json"

/-- What every command takes that submits an operation. -/
def operation (arguments : Arguments) : OperationOptions where
  toCommonOptions := arguments.common
  ownerKey := arguments.lookup "owner-private-key"
  paymasterKey := arguments.lookup "paymaster-signer-private-key"
  noPaymaster := arguments.switch "no-paymaster"
  wait := arguments.switch "wait"
  maxWaitSeconds := arguments.count "max-wait-seconds" 120

end Arguments

/-- A command before its arguments are known. -/
structure CommandForm where
  name : String
  parameters : Parameters
  build : Arguments → Command

/-- The commands of the group for wallets. -/
def walletForms : List CommandForm := [
  { name := "create"
    parameters := { named := operationParameters }
    build := fun arguments => .createWallet arguments.operation },
  { name := "list"
    parameters := { named := commonParameters }
    build := fun arguments => .listWallets arguments.common }]

/-- The commands outside groups. -/
def commandForms : List CommandForm := [
  { name := "account"
    parameters := { named := commonParameters ++ [ownerKeyParameter, { name := "salt" }] }
    build := fun arguments => .account arguments.common (arguments.lookup "owner-private-key")
      (arguments.text "salt" "0") },
  { name := "send"
    parameters := { named := operationParameters ++
      [{ name := "wallet" }, { name := "salt" }, { name := "call-data" }] }
    build := fun arguments => .send arguments.operation (arguments.lookup "wallet")
      (arguments.lookup "salt") (arguments.text "call-data" "0x") },
  { name := "transfer-eth"
    parameters := { named := operationParameters ++
      [needed "wallet", needed "to", needed "amount"] }
    build := fun arguments => .transferEth arguments.operation (arguments.text "wallet" "")
      (arguments.text "to" "") (arguments.text "amount" "") },
  { name := "transfer-token"
    parameters := { named := operationParameters ++
      [needed "wallet", needed "token", needed "to", needed "amount"] }
    build := fun arguments => .transferToken arguments.operation (arguments.text "wallet" "")
      (arguments.text "token" "") (arguments.text "to" "") (arguments.text "amount" "") },
  { name := "balance"
    parameters := { named := commonParameters ++ [needed "wallet", { name := "token" }] }
    build := fun arguments => .balance arguments.common (arguments.text "wallet" "")
      (arguments.lookup "token") },
  { name := "status"
    parameters := {
      named := commonParameters ++ [
        { name := "wait", kind := .switch },
        { name := "max-wait-seconds", kind := .count },
        { name := "poll-interval-ms", kind := .count }]
      placed := [needed "hash"] }
    build := fun arguments => .status arguments.common (arguments.text "hash" "")
      (arguments.switch "wait") (arguments.count "max-wait-seconds" 120)
      (arguments.count "poll-interval-ms" 2000) }]

/-- Reads the command of a form. -/
def CommandForm.read (form : CommandForm) (settings : List (String × String))
    (words : List String) : Except UsageFault Command := do
  let arguments ← form.parameters.read settings words
  return form.build arguments

/-- Reads a word where a command has to be named and none is. -/
def refuseWord (hasVersion : Bool) (names : List String) (word : String) (rest : List String) :
    UsageFault :=
  match Word.of word with
  | .plain _ => .unknownCommand
  | .short 'h' => .help
  | .short c => if hasVersion ∧ c = 'V' then .version else .unknownArgument
  | .long name value =>
    if name = "help" ∨ (hasVersion ∧ name = "version") then
      if value.isSome then .needlessValue else if name = "help" then .help else .version
    else .unknownArgument
  | .separator =>
    match rest with
    | [] => .missingCommand
    | word :: _ => if word ∈ names then .unknownArgument else .unknownCommand

/-- The names in a group of commands. -/
def namesIn (forms : List CommandForm) (groups : List String) : List String :=
  "help" :: forms.map (·.name) ++ groups

/-- Tells of the commands that words name: of no more than one, in the group that they start in. -/
def helpOn (names : List String) : List String → UsageFault
  | [] => .help
  | [word] => if word ∈ names then .help else .unknownCommand
  | _ => .unknownCommand

/-- Reads a command of the group for wallets. -/
def readWalletCommand (settings : List (String × String)) :
    List String → Except UsageFault Command
  | [] => .error .missingCommand
  | word :: rest =>
    let names := namesIn walletForms []
    if word = "help" then .error (helpOn names rest)
    else
      match walletForms.find? (·.name = word) with
      | some form => form.read settings rest
      | none => .error (refuseWord false names word rest)

/-- Reads a command, with the settings that stand in for parameters. -/
def read (settings : List (String × String)) : List String → Except UsageFault Command
  | [] => .error .missingCommand
  | "wallet" :: rest => readWalletCommand settings rest
  | "help" :: "wallet" :: rest => .error (helpOn (namesIn walletForms []) rest)
  | "help" :: rest => .error (helpOn (namesIn commandForms []) rest)
  | word :: rest =>
    match commandForms.find? (·.name = word) with
    | some form => form.read settings rest
    | none => .error (refuseWord true (namesIn commandForms ["wallet"]) word rest)

end AccountRelay.CommandLine
