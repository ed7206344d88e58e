import AccountRelay.Duration
import AccountRelay.Http.Status
import AccountRelay.Input
import AccountRelay.Json.Printer
import AccountRelay.Uint256.Halves
import AccountRelay.Url.Host

/-! # Failures

A `Failure` says what went wrong, and `within` says in which attempt it did. The wording is in
`Failure.message` and `Context.message` alone; `Failure.chain` lists the texts from the outermost
attempt to the cause.
-/

namespace AccountRelay

/-- The parties whose own words for a failure are passed on as they are. -/
inductive Layer
  /-- The reader of documents. -/
  | json
  /-- The file system. -/
  | files
  /-- The transport to the bundler. -/
  | http
  /-- The chain's node. -/
  | node
  /-- The node, on a call of a contract. -/
  | contract
deriving DecidableEq

/-- A request that the bundler turned down, in its own words. -/
structure Rejection where
  method : String
  code : Int
  message : String
  data : Option Json.Value

/-- A rejection in words. -/
def Rejection.text (rejection : Rejection) : String :=
  rejection.method ++ " rejected by bundler (code " ++ Numeral.integer rejection.code ++ "): " ++
    rejection.message

/-- Why the file system turned down an operation. -/
inductive FileFault
  | notFound
  /-- Somebody else has the lock. -/
  | lockHeld
  /-- The name stands for a directory on the way. -/
  | inUse
  | alreadyExists
  | notADirectory
  | isADirectory
  | nameTooLong
  /-- A path with the character zero. -/
  | zeroCharacter
  /-- The content is no text. -/
  | notText
  | other (text : String)
deriving DecidableEq

/-- A fault of the file system in words. -/
def FileFault.message : FileFault → String
  | .notFound => "No such file or directory (os error 2)"
  | .lockHeld => "Resource temporarily unavailable (os error 11)"
  | .inUse => "Device or resource busy (os error 16)"
  | .alreadyExists => "File exists (os error 17)"
  | .notADirectory => "Not a directory (os error 20)"
  | .isADirectory => "Is a directory (os error 21)"
  | .nameTooLong => "File name too long (os error 36)"
  | .zeroCharacter => "file name contained an unexpected NUL byte"
  | .notText => "stream did not contain valid UTF-8"
  | .other text => text

/-- The part of a deployment an address is for. -/
inductive Role
  | entryPoint
  | accountFactory
  | paymaster
deriving DecidableEq

/-- The name of a role in a deployment document. -/
def Role.name : Role → String
  | .entryPoint => "entryPoint"
  | .accountFactory => "accountFactory"
  | .paymaster => "paymaster"

/-- The attempts in which something can go wrong. -/
inductive Context
  | gasEstimate
  | priorityFee
  | paymasterSigner
  | ownerSigner
  | privateKey (setting : String)
  | operationHash (text : String)
  | readRegistry (path : String)
  | parseRegistry (path : String)
  | createRegistryDirectory (path : String)
  | openLockFile (path : String)
  | writeTempRegistry (path : String)
  | readDeployment (path : String)
  | parseDeployment (path : String)
  | roleAddress (role : Role)
  | nodeUrl (url : String)
  | post (url : String)
  | decodeReply
  | readCode
  | readGasPrice
  | readChainId
  | readBalance
  | deriveAddress
  | readNonce
  | readOperationHash
  | readPaymasterHash
  | readTokenBalance
  | sendMint
  | awaitMint
  | sendFunding
  | awaitFunding
  | tokenBalance (token : Address)
  | awaitReceipt
deriving DecidableEq

/-- An attempt that failed, in words. -/
def Context.message : Context → String
  | .gasEstimate => "bundler gas estimate failed"
  | .priorityFee => "bundler maxPriorityFeePerGas failed"
  | .paymasterSigner => "paymaster signer failed"
  | .ownerSigner => "wallet owner signer failed"
  | .privateKey setting => "invalid private key in " ++ setting
  | .operationHash text => "invalid userOpHash " ++ Text.quoted text
  | .readRegistry path => "failed to read wallet registry " ++ path
  | .parseRegistry path => "failed to parse wallet registry " ++ path
  | .createRegistryDirectory path => "failed to create registry directory " ++ path
  | .openLockFile path => "failed to open lock file " ++ path
  | .writeTempRegistry path => "failed to write temp registry " ++ path
  | .readDeployment path => "failed to read deployment json at " ++ path
  | .parseDeployment path => "failed to parse deployment json at " ++ path
  | .roleAddress role => "invalid " ++ role.name ++ " address"
  | .nodeUrl url => "invalid RPC url " ++ url
  | .post url => "POST " ++ url ++ " failed"
  | .decodeReply => "failed to decode JSON"
  | .readCode => "eth_getCode failed"
  | .readGasPrice => "failed to fetch gas price"
  | .readChainId => "eth_chainId failed"
  | .readBalance => "eth_getBalance failed"
  | .deriveAddress => "factory.createAccount (eth_call) failed"
  | .readNonce => "entryPoint.getNonce failed"
  | .readOperationHash => "entryPoint.getUserOpHash failed"
  | .readPaymasterHash => "paymaster.getHash failed"
  | .readTokenBalance => "erc20.balanceOf failed"
  | .sendMint => "failed to send paymaster.mintTokens tx"
  | .awaitMint => "failed waiting for paymaster.mintTokens receipt"
  | .sendFunding => "failed to send ETH funding tx"
  | .awaitFunding => "failed waiting for ETH funding receipt"
  | .tokenBalance token => "balance lookup failed for token " ++ token.toText
  | .awaitReceipt => "failed waiting for userOp receipt"

/-- What went wrong. -/
inductive Failure
  | input (error : InputError)
  | rejected (rejection : Rejection)
  | tooWide (error : TooWide)
  /-- A failure of another party, in its own words. -/
  | external (layer : Layer) (text : String)
  /-- A failure reported with a text of its own. -/
  | reported (text : String)
  | badDigits (fault : Hex.Fault)
  | hashSize (size : Nat)
  | markupOverflow (gas : Uint256) (points : UInt64)
  | feeOverflow
  | windowTooLate
  | nothingToAuthorize
  | notAuthorized (paymaster : Address)
  | notDeployed (wallet : Address)
  | clockBeforeEpoch
  | missingKey (setting : String)
  | keyDigits (fault : Hex.Fault)
  | keyOutOfRange
  | registryLocked (path : String) (fault : FileFault)
  | alreadyRegistered (wallet : Address)
  | notRegistered (wallet : Address) (path : String)
  | replaceRegistry (path : String) (fault : FileFault)
  | invalidFunding (text : String) (fault : Uint256.DecimalFault)
  | addressLength
  | addressCharacter (c : Char) (position : Nat)
  | invalidUrl (fault : UrlFault)
  | httpStatus (status : Nat) (body : Json.Value)
  | missingResult
  | feeNotText (reply : Json.Value)
  | missingField (key : String)
  | unknownHashShape (reply : Json.Value)
  | receiptWithoutSuccess (reply : Json.Value)
  | wideChainId (chainId : Uint256)
  | chainMismatch (expected actual : UInt64)
  | mintDropped
  | mintReverted (transaction : Hash)
  | fundingDropped
  | timedOut (span : Duration)
  | within (context : Context) (cause : Failure)

/-- A failure in words, without its causes. -/
def Failure.message : Failure → String
  | .input error => error.message
  | .rejected rejection => rejection.text
  | .tooWide error => error.message
  | .external _ text => text
  | .reported text => text
  | .badDigits fault => fault.message
  | .hashSize size => "expected 32-byte hex, got " ++ Numeral.decimal size ++ " bytes"
  | .markupOverflow gas points =>
    "gas markup overflow: " ++ gas.toDecimal ++ " * " ++ Numeral.decimal points.toNat ++ " bps"
  | .feeOverflow => "maxFeePerGas overflow"
  | .windowTooLate => "paymaster validUntil does not fit uint48"
  | .nothingToAuthorize => "authorize called without a paymaster"
  | .notAuthorized paymaster => "paymaster " ++ paymaster.toText ++ " selected but not authorized"
  | .notDeployed wallet =>
    "wallet " ++ wallet.toText ++ " has no code and no creation salt was supplied"
  | .clockBeforeEpoch =>
    "system clock before unix epoch: second time provided was later than self"
  | .missingKey setting => "missing " ++ setting ++ " (or the matching --flag)"
  | .keyDigits fault => fault.clause
  | .keyOutOfRange => "signature error"
  | .registryLocked path fault =>
    "wallet registry is locked by another process (" ++ path ++ "): " ++ fault.message
  | .alreadyRegistered wallet => "wallet " ++ wallet.toText ++ " is already registered"
  | .notRegistered wallet path => "wallet " ++ wallet.toText ++ " is not registered in " ++ path
  | .replaceRegistry path fault =>
    "failed to replace wallet registry " ++ path ++ ": " ++ fault.message
  | .invalidFunding text fault =>
    "invalid policy.initialFundingWei " ++ Text.quoted text ++ ": " ++ fault.message
  | .addressLength => "Invalid input length"
  | .addressCharacter c position =>
    "Invalid character '" ++ String.ofList [c] ++ "' at position " ++ Numeral.decimal position
  | .invalidUrl fault => fault.message
  | .httpStatus status body => "HTTP " ++ Http.statusText status ++ ": " ++ body.toText
  | .missingResult => "missing result field"
  | .feeNotText reply => "rundler_maxPriorityFeePerGas returned non-string: " ++ reply.toText
  | .missingField key => "missing or invalid field " ++ key
  | .unknownHashShape reply =>
    "unexpected eth_sendUserOperation result shape (expected string or \x7bresult: ...\x7d): " ++
      reply.toText
  | .receiptWithoutSuccess reply =>
    "receipt is missing boolean \x60success\x60: " ++ reply.toText
  | .wideChainId chainId =>
    "eth_chainId returned " ++ chainId.toDecimal ++ ", which does not fit in u64"
  | .chainMismatch expected actual =>
    "chainId mismatch: deployment has " ++ Numeral.decimal expected.toNat ++ ", RPC returned " ++
      Numeral.decimal actual.toNat
  | .mintDropped => "paymaster.mintTokens tx dropped from mempool"
  | .mintReverted transaction => "paymaster.mintTokens reverted (tx " ++ transaction.toText ++ ")"
  | .fundingDropped => "ETH funding tx dropped from mempool"
  | .timedOut span => "timed out waiting for userOp receipt after " ++ span.toText
  | .within context _ => context.message

/-- The cause without the attempts around it. -/
def Failure.root : Failure → Failure
  | .within _ cause => cause.root
  | failure => failure

/-- The texts of a failure, from the outermost attempt to the cause; a value that is no string of
digits has the fault of its digits as its cause. -/
def Failure.chain : Failure → List String
  | .within context cause => context.message :: cause.chain
  | .input (.hex field fault) => [InputError.message (.hex field fault), fault.message]
  | failure => [failure.message]

end AccountRelay
