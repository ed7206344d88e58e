import AccountRelay.Deployment.Basic
import AccountRelay.Environment
import AccountRelay.Json.Fields
import AccountRelay.Json.Reader
import AccountRelay.Storage.Files

/-! # Deployment documents

A deployment is read from a JSON document whose terms of payment may be left out in part or whole.
The endpoints may be given from outside instead: by an argument, or for the node by a variable of
the environment that the document names.
-/

namespace AccountRelay.Deployment

open Json (Node)

/-- The terms of payment as they are written. -/
structure Terms where
  markup : Option UInt64 := none
  initialFunding : Option String := none
  fundingMode : FundingMode := .paymasterMint
  paymasterValidity : Option UInt64 := none
  paymasterVerificationGas : Option UInt64 := none
  paymasterPostOpGas : Option UInt64 := none
deriving DecidableEq

/-- A deployment as it is written. -/
structure Document where
  chainId : UInt64
  rpc : String
  /-- The variable of the environment that may name another node. -/
  rpcVariable : Option String
  bundler : String
  entryPoint : String
  accountFactory : String
  paymaster : String
  terms : Terms
deriving DecidableEq

/-- The way of funding with a name. -/
def fundingModeNamed? : String → Option FundingMode
  | "paymasterMint" => some .paymasterMint
  | "native" => some .native
  | "none" => some .none
  | _ => none

/-- The way of funding in a document: its name, or an object with the name as the only key and null
as its value. -/
def fundingMode? : Node → Option FundingMode
  | .string name => (Json.Piece.text? name).bind fundingModeNamed?
  | .object [(name, .null)] => (Json.Piece.text? name).bind fundingModeNamed?
  | _ => none

/-- The terms of payment in a document. -/
def Terms.ofNode? (node : Node) : Option Terms := do
  match ← node.fields? ["markupBps", "initialFundingWei", "fundingMode",
    "paymasterValiditySeconds", "paymasterVerificationGasLimit", "paymasterPostOpGasLimit"] with
  | [markup, funding, mode, validity, verificationGas, postOpGas] =>
    let markup ← Node.optional? Node.uint64? markup
    let initialFunding ← Node.optional? Node.text? funding
    let fundingMode ← match mode with
      | some mode => fundingMode? mode
      | none => some .paymasterMint
    let paymasterValidity ← Node.optional? Node.uint64? validity
    let paymasterVerificationGas ← Node.optional? Node.uint64? verificationGas
    let paymasterPostOpGas ← Node.optional? Node.uint64? postOpGas
    return {
      markup, initialFunding, fundingMode, paymasterValidity, paymasterVerificationGas,
      paymasterPostOpGas }
  | _ => none

/-- The deployment in a document. -/
def Document.ofNode? (node : Node) : Option Document := do
  match ← node.fields? ["chainId", "rpc", "rpcEnvVar", "bundler", "entryPoint", "accountFactory",
    "paymaster", "policy"] with
  | [chainId, rpc, rpcVariable, bundler, entryPoint, accountFactory, paymaster, terms] =>
    let chainId ← chainId.bind Node.uint64?
    let rpc ← rpc.bind Node.text?
    let rpcVariable ← Node.optional? Node.text? rpcVariable
    let bundler ← bundler.bind Node.text?
    let entryPoint ← entryPoint.bind Node.text?
    let accountFactory ← accountFactory.bind Node.text?
    let paymaster ← paymaster.bind Node.text?
    let terms ← match terms with
      | some terms => Terms.ofNode? terms
      | none => some {}
    return { chainId, rpc, rpcVariable, bundler, entryPoint, accountFactory, paymaster, terms }
  | _ => none

/-- The deployment in a text. -/
def Document.read (text : String) : Option Document :=
  (Json.read text.toList).bind Document.ofNode?

/-- The values of the digits of a text whose first byte stands at `position`, of which there have to
be `count`. -/
def addressDigits (count position : Nat) : List Char → Except Failure (List Nat)
  | [] => if count = 0 then .ok [] else .error .addressLength
  | c :: rest =>
    if Hex.isGap c then addressDigits count (position + c.utf8Size) rest
    else
      match count with
      | 0 => .error .addressLength
      | count + 1 =>
        match Numeral.hexDigit? c with
        | some digit => (addressDigits count (position + 1) rest).map (digit :: ·)
        | none => .error (.addressCharacter c position)

/-- Reads an address of a document: 40 digits behind an optional `0x`, with gaps anywhere behind that
mark. -/
def readAddress (text : String) : Except Failure Address := do
  let digits ← addressDigits 40 0 (Hex.unmarked text.toList)
  match Octets.ofBytes? 20 (Hex.pairs digits) with
  | some address => return address
  | none => .error .addressLength

/-- The address for a role. -/
def roleAddress (role : Role) (text : String) : Except Failure Address :=
  (readAddress text).mapError (.within (.roleAddress role))

/-- The first balance of a wallet in a document. -/
def fundingAmount : Option String → Except Failure Uint256
  | none => .ok 1000000000000000000
  | some text =>
    (Uint256.ofDecimal (Text.trimmed text.toList)).mapError (.invalidFunding text)

/-- A number of 64 bits as one of 256. -/
def widened (number : UInt64) : Uint256 :=
  BitVec.ofNat 256 number.toNat

/-- The deployment that a document describes, with the endpoints to use. The first fault counts: of
the funding, of the entry point, of the factory, of the paymaster. -/
def ofDocument (document : Document) (rpcUrl bundlerUrl : String) : Except Failure Deployment := do
  let terms := document.terms
  let initialFunding ← fundingAmount terms.initialFunding
  let entryPoint ← roleAddress .entryPoint document.entryPoint
  let accountFactory ← roleAddress .accountFactory document.accountFactory
  let paymaster ← roleAddress .paymaster document.paymaster
  let policy : GasPolicy := {}
  let gas : PaymasterGas := {}
  return {
    chainId := document.chainId
    rpcUrl
    bundlerUrl
    entryPoint
    accountFactory
    paymaster
    gasPolicy := ⟨terms.markup.getD policy.markup⟩
    paymasterGas := {
      verification := (terms.paymasterVerificationGas.map widened).getD gas.verification
      postOp := (terms.paymasterPostOpGas.map widened).getD gas.postOp }
    paymasterValidity := terms.paymasterValidity.getD 3600
    initialFunding
    fundingMode := terms.fundingMode }

/-- The endpoint of the node: the one given from outside, else the one in the variable that the
document names, else the one in the document. -/
def nodeUrl (document : Document) (override : Option String) :
    Dialogue Environment Failure String :=
  match override, document.rpcVariable with
  | some url, _ => .done url
  | none, some name => .ask (I := Environment) name fun url => .done (url.getD document.rpc)
  | none, none => .done document.rpc

/-- Loads the deployment under a path, with endpoints given from outside in place of its own. -/
def load (path : String) (rpc bundler : Option String) :
    Dialogue (Files.sum Environment) Failure Deployment := do
  let text ← (Files.readText (.readDeployment path) path).inl
  match Document.read text with
  | none => .fail (.within (.parseDeployment path) (.external .json "document not accepted"))
  | some document =>
    let rpcUrl ← (nodeUrl document rpc).inr
    .ofExcept (ofDocument document rpcUrl (bundler.getD document.bundler))

end AccountRelay.Deployment
