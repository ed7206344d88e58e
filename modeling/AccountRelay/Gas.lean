import AccountRelay.Failure
import AccountRelay.Operation.Basic

/-! # Gas policy

An estimate is raised by a markup in basis points before it becomes a limit: 11000 points are one
and a tenth of the estimate, rounded down. A product that does not fit in 256 bits is an error. The
fee is the gas price plus the tip, checked alike.
-/

namespace AccountRelay

/-- How an estimate becomes a limit. -/
structure GasPolicy where
  /-- The markup in ten-thousandths. -/
  markup : UInt64 := 11000
deriving DecidableEq

namespace Gas

/-- An amount of gas raised by a markup in ten-thousandths, rounded down. -/
def raised (gas : Uint256) (markup : UInt64) : Except Failure Uint256 :=
  match Uint256.checkedMul gas (BitVec.ofNat 256 markup.toNat) with
  | some product => .ok (BitVec.ofNat 256 (product.toNat / 10000))
  | none => .error (.markupOverflow gas markup)

/-- The fees for a gas price and a tip. -/
def fees (gasPrice priority : Uint256) : Except Failure Fees :=
  match Uint256.checkedAdd gasPrice priority with
  | some max => .ok ⟨max, priority⟩
  | none => .error .feeOverflow

/-- The limits an operation starts with, before anything is estimated. -/
def placeholderLimits : GasLimits :=
  { preVerification := 200000, call := 400000, verification := 400000 }

/-- The fees an operation starts with. -/
def placeholderFees : Fees :=
  { max := 10000000000, priority := 5000000000 }

/-- The signature that stands in for the real one while gas is estimated; it has the length of a
real one. -/
def placeholderSignature : Bytes :=
  List.replicate 15 0xff ++ 0xf0 :: List.replicate 16 0x00 ++ 0x7a :: List.replicate 31 0xaa ++
    [0x1c]

end Gas

/-- The limits that an estimate becomes: each of its three amounts is raised, and the first that
does not fit is the error. -/
def GasPolicy.limits (policy : GasPolicy) (estimate : GasLimits) : Except Failure GasLimits := do
  let preVerification ← Gas.raised estimate.preVerification policy.markup
  let call ← Gas.raised estimate.call policy.markup
  let verification ← Gas.raised estimate.verification policy.markup
  return { preVerification, call, verification }

end AccountRelay
