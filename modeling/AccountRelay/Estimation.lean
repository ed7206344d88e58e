import AccountRelay.Gas
import AccountRelay.Services

/-! # Estimating gas

The bundler estimates the gas of an operation that carries a placeholder of a signature's length.
`Estimation.apply` writes the raised limits into the operation as soon as it has them and the fees
once it has those, so an operation whose fees could not be found out already carries its limits.
-/

namespace AccountRelay.Estimation

/-- The bundler's estimate for an operation with the placeholder as its signature. -/
def estimate (entryPoint : Address) (operation : Operation) : Consultation GasLimits :=
  Services.within .gasEstimate
    (Services.estimate { operation with signature := Gas.placeholderSignature } entryPoint)

/-- The limits for an operation: the estimate, raised. -/
def limits (policy : GasPolicy) (entryPoint : Address) (operation : Operation) :
    Consultation GasLimits := do
  let raw ← estimate entryPoint operation
  .ofExcept (policy.limits raw)

/-- The fees: the bundler's tip, and the gas price on top of it. -/
def fees : Consultation Fees := do
  let priority ← Services.within .priorityFee Services.priorityFee
  let gasPrice ← Services.gasPrice
  .ofExcept (Gas.fees gasPrice priority)

/-- An operation after an estimation, and how the estimation ended. -/
structure Result where
  operation : Operation
  outcome : Except Failure Unit

/-- Writes limits and fees into an operation. -/
def apply (policy : GasPolicy) (entryPoint : Address) (operation : Operation) :
    Consultation Result := do
  match ← (limits policy entryPoint operation).attempt with
  | .error failure => return { operation, outcome := .error failure }
  | .ok gas =>
    match ← fees.attempt with
    | .error failure => return { operation := { operation with gas }, outcome := .error failure }
    | .ok fees => return { operation := { operation with gas, fees }, outcome := .ok () }

end AccountRelay.Estimation
