import AccountRelay.Services

/-! # Authorizing an operation

The paymaster's signer promises to pay for an operation within a window of time. The promise covers
every gas limit and fee, so it comes after all of them are final. `Authorization.apply` writes it into the
operation.
-/

namespace AccountRelay.Authorization

/-- The operation with a fresh authorization that is valid from `now` on for `validity` seconds, and
its window. -/
def authorize (validity now : UInt64) (operation : Operation) :
    Consultation (Operation × ValidityWindow) := do
  match operation.activePaymaster with
  | none => .fail .nothingToAuthorize
  | some paymaster =>
    let window ← .ofExcept (ValidityWindow.startingAt now validity)
    let packed ← .ofExcept (operation.pack.mapError .tooWide)
    let hash ← Services.paymasterHash paymaster packed window
    let signature ← Services.within .paymasterSigner (Services.paymasterSign hash)
    return ({ operation with paymasterData := Sponsorship.encode window signature }, window)

/-- An operation after an attempt to authorize it, and how the attempt ended. -/
structure Result where
  operation : Operation
  outcome : Except Failure ValidityWindow

/-- Writes a fresh authorization into an operation, which stays as it is when there is none. -/
def apply (validity now : UInt64) (operation : Operation) : Consultation Result := do
  match ← (authorize validity now operation).attempt with
  | .error failure => return { operation, outcome := .error failure }
  | .ok (operation, window) => return { operation, outcome := .ok window }

end AccountRelay.Authorization
