import AccountRelay.Bundler.Reply
import AccountRelay.Http.Request
import AccountRelay.Operation.Body

/-! # Asking a bundler

A method is called by posting an object to the bundler's endpoint. The reply is a rejection when it
has an error in it, whatever else it holds; otherwise it is worth its result when its status is one
of success and it has a result (`Bundler.result`).
-/

namespace AccountRelay.Bundler

open Json (Value)

/-- The object that calls a method. -/
def callBody (method : String) (params : List Value) : Value :=
  .ofMembers [("jsonrpc", .string "2.0"), ("id", .number (.integer 1)),
    ("method", .string method), ("params", .array params)]

/-- The result in a reply with a status and a document. -/
def result (method : String) (status : Nat) (document : Value) : Except Failure Value :=
  match document.get? "error" with
  | some error => .error (.rejected (rejection method error))
  | none =>
    if Http.isSuccess status then
      match document.get? "result" with
      | some result => .ok result
      | none => .error .missingResult
    else .error (.httpStatus status document)

/-- Calls a method of the bundler at an endpoint. -/
def call (url method : String) (params : List Value) : HttpWork Value := do
  let reply ← Http.post url (callBody method params)
  let document ← .ofExcept reply.document
  .ofExcept (result method reply.status document)

/-- Calls a method and reads its result. -/
def asked {α : Type} (url method : String) (params : List Value)
    (read : Value → Except Failure α) : HttpWork α := do
  let result ← call url method params
  .ofExcept (read result)

/-- Has the gas of an operation estimated. -/
def estimate (url : String) (operation : Operation) (entryPoint : Address) : HttpWork GasLimits :=
  asked url "eth_estimateUserOperationGas"
    [operation.toEstimateBody, .string entryPoint.toText] gasEstimate

/-- Hands over an operation. -/
def send (url : String) (operation : Operation) (entryPoint : Address) : HttpWork Hash :=
  asked url "eth_sendUserOperation" [operation.toSendBody, .string entryPoint.toText] operationHash

/-- Looks up the receipt of an operation. -/
def lookUp (url : String) (hash : Hash) : HttpWork (Option Receipt) :=
  asked url "eth_getUserOperationReceipt" [.string hash.toText] receipt

/-- Asks for the tip. -/
def tip (url : String) : HttpWork Uint256 :=
  asked url "rundler_maxPriorityFeePerGas" [] priorityFee

end AccountRelay.Bundler
