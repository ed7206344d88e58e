import AccountRelay.Draft

/-! # Submitting operations and following them

An operation is handed to the bundler once. Afterwards its hash can be looked up: until it is part
of a block there is no receipt. `Submission.wait` looks again and again, and a failed lookup is
worth a warning and no more.
-/

namespace AccountRelay

/-- Where an operation stands. -/
inductive ReceiptState
  | pending
  | included (receipt : Receipt)
deriving DecidableEq

namespace Submission

/-- Hands a signed operation to the bundler. A rejection is passed on as it is; another hash than
the signed one is worth a warning. -/
def submit (entryPoint : Address) (signed : SignedOperation) : Consultation Hash := do
  let hash ← Services.send signed.operation entryPoint
  if hash ≠ signed.hash then
    Services.warn .bundlerHash
  return hash

/-- Looks where an operation stands. -/
def receiptState (hash : Hash) : Consultation ReceiptState := do
  match ← Services.receipt hash with
  | some receipt => return .included receipt
  | none => return .pending

/-- What is told of an operation: one that is pending counts as no success, for no reason. -/
def ReceiptState.status : ReceiptState → Receipt
  | .included receipt => receipt
  | .pending => { success := false, reason := none }

/-- Looks how an operation did. -/
def status (hash : Hash) : Consultation Receipt := do
  let state ← receiptState hash
  return ReceiptState.status state

/-- Whether a wait has lasted longer than it may; one with no time limit may last forever. -/
def isOverdue (timeout elapsed : Duration) : Bool :=
  timeout.nanoseconds ≠ 0 ∧ timeout.nanoseconds < elapsed.nanoseconds

/-- Looks at most `rounds` times, with a pause after each look, for an operation to be included. The
time is read before each look, and the wait fails when it has lasted too long. Without an answer
after all rounds there is no receipt yet. -/
def waitFrom (hash : Hash) (interval timeout start : Duration) :
    Nat → Consultation (Option Receipt)
  | 0 => .done none
  | rounds + 1 => do
    let time ← Services.uptime
    if isOverdue timeout ⟨time.nanoseconds - start.nanoseconds⟩ then
      .fail (.timedOut timeout)
    else
      match ← (receiptState hash).attempt with
      | .ok (.included receipt) => return some receipt
      | .ok .pending =>
        Services.pause interval
        waitFrom hash interval timeout start rounds
      | .error _ =>
        Services.warn .receiptLookup
        Services.pause interval
        waitFrom hash interval timeout start rounds

/-- Waits from now on for an operation to be included. -/
def wait (hash : Hash) (interval timeout : Duration) (rounds : Nat) :
    Consultation (Option Receipt) := do
  let start ← Services.uptime
  waitFrom hash interval timeout start rounds

end Submission

end AccountRelay
