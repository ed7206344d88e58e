import AccountRelay.Contracts
import AccountRelay.Proofs.Dialogue.Histories

/-! # When a wallet counts as funded

A first balance comes with one transaction, which is minted or sent according to the deployment
(`Contracts.fundingWay?`). It is passed on and waited for, and then it is judged by its receipt
(`Contracts.ends_fund_iff`). A transaction that nobody knows of any longer is a failure either way. One
that is part of a block has to have succeeded if it mints, while one that sends is taken with whatever
status (`Contracts.funded_iff`).
-/

namespace AccountRelay.Contracts

variable {contracts : Contracts} {account : Address} {amount : Uint256}
  {exchanges : List (Exchange ChainNode)} {outcome : Except Failure Unit}

/-- How a first balance is given: the transaction, and what is reported when it goes wrong. -/
structure FundingWay where
  transaction : Transaction
  sending : Context
  layer : Layer
  waiting : Context
  dropped : Failure
  /-- The failure that a receipt stands for, if it does. -/
  fault? : TransactionReceipt → Option Failure

/-- Tokens are minted, by a transaction that has to succeed. -/
def minting (contracts : Contracts) (account : Address) (amount : Uint256) : FundingWay where
  transaction := {
    target := contracts.fundingPaymaster
    data := some (Abi.callData "mintTokens(address,uint256)"
      [.ofAddress account, .ofNumber amount]) }
  sending := .sendMint
  layer := .contract
  waiting := .awaitMint
  dropped := .mintDropped
  fault? receipt :=
    if receipt.status = some 1 then none else some (.mintReverted receipt.transaction)

/-- Some of the chain's own currency is sent, whatever becomes of the transaction in its block. -/
def sending (account : Address) (amount : Uint256) : FundingWay where
  transaction := { target := account, value := some amount }
  sending := .sendFunding
  layer := .node
  waiting := .awaitFunding
  dropped := .fundingDropped
  fault? _ := none

/-- The way of the deployment, for an amount that is to be given. -/
def fundingWay? (contracts : Contracts) (account : Address) (amount : Uint256) : Option FundingWay :=
  if amount = 0 then none
  else
    match contracts.fundingMode with
    | .paymasterMint => some (contracts.minting account amount)
    | .native => some (sending account amount)
    | .none => none

/-- A transaction that the node passed on and waited for. -/
def settling (transaction : Transaction) (hash : Hash) (receipt : Option TransactionReceipt) :
    List (Exchange ChainNode) :=
  [⟨.send transaction, (.ok hash : Except String Hash)⟩,
    ⟨.settle hash, (.ok receipt : Except String (Option TransactionReceipt))⟩]

namespace FundingWay

/-- What becomes of a transaction that was waited for. -/
def verdict (way : FundingWay) : Option TransactionReceipt → Except Failure Unit
  | none => .error way.dropped
  | some receipt =>
    match way.fault? receipt with
    | some failure => .error failure
    | none => .ok ()

/-- How a first balance is given in a way: what is asked of the node, and what comes of it. -/
inductive Course (way : FundingWay) : List (Exchange ChainNode) → Except Failure Unit → Prop
  | unsent (text : String) :
    Course way [⟨.send way.transaction, (.error text : Except String Hash)⟩]
      (.error (ChainNode.failure way.layer way.sending text))
  | lost (hash : Hash) (text : String) :
    Course way [⟨.send way.transaction, (.ok hash : Except String Hash)⟩,
        ⟨.settle hash, (.error text : Except String (Option TransactionReceipt))⟩]
      (.error (ChainNode.failure .node way.waiting text))
  | settled {outcome : Except Failure Unit} (hash : Hash) (receipt : Option TransactionReceipt)
    (judged : way.verdict receipt = outcome) :
    Course way (settling way.transaction hash receipt) outcome

/-- Takes the way: passes on the transaction, waits for it and judges it. -/
def take (way : FundingWay) : NodeWork Unit :=
  settled way.sending way.layer way.waiting way.transaction >>= fun receipt =>
    .ofExcept (way.verdict receipt)

/-- A way is taken in one of its three courses: its transaction is not passed on, waiting for it
fails, or what settles it is judged. -/
theorem ends_take_iff (way : FundingWay) :
    way.take.Ends exchanges outcome ↔ way.Course exchanges outcome := by
  constructor
  · rintro ⟨text | hash, _, rfl, ended⟩
    · obtain ⟨rfl, rfl⟩ := ended
      exact .unsent text
    · obtain ⟨text | receipt, _, rfl, ended⟩ := ended
      · obtain ⟨rfl, rfl⟩ := ended
        exact .lost hash text
      · obtain ⟨rfl, rfl⟩ := Dialogue.Ends.ofExcept ended
        exact .settled hash receipt rfl
  · rintro (text | ⟨hash, text⟩ | ⟨hash, receipt, rfl⟩)
    · exact ⟨_, [], rfl, rfl, rfl⟩
    · exact ⟨_, _, rfl, _, [], rfl, rfl, rfl⟩
    · exact ⟨_, _, rfl, _, [], rfl, .of_ofExcept _⟩

end FundingWay

/-- A mint is a transaction on the token, settled by the status of its receipt. -/
theorem mint_eq (contracts : Contracts) (account : Address) (amount : Uint256) :
    contracts.mint account amount = (contracts.minting account amount).take := by
  refine congrArg (settled .sendMint .contract .awaitMint _ >>= ·) (funext ?_)
  rintro (_ | receipt)
  · rfl
  · by_cases succeeded : receipt.status = some 1
    · simp [FundingWay.verdict, minting, succeeded, Dialogue.ofExcept]
    · simp [FundingWay.verdict, minting, succeeded, Dialogue.ofExcept]

/-- A native transfer is a transaction that any receipt settles. -/
theorem sendNative_eq (account : Address) (amount : Uint256) :
    sendNative account amount = (sending account amount).take := by
  refine congrArg (settled .sendFunding .node .awaitFunding _ >>= ·) (funext ?_)
  rintro (_ | receipt)
  · rfl
  · rfl

/-- Funding takes the way that the mode and the amount call for, or does nothing. -/
theorem fund_eq (contracts : Contracts) (account : Address) (amount : Uint256) :
    contracts.fund account amount =
      match contracts.fundingWay? account amount with
      | none => .done ()
      | some way => way.take := by
  unfold fund fundingWay?
  split
  · rfl
  · cases contracts.fundingMode with
    | none => rfl
    | native => exact sendNative_eq account amount
    | paymasterMint => exact mint_eq contracts account amount

/-- Giving a first balance asks nothing when there is none to give, and else takes the way of the
deployment. -/
theorem ends_fund_iff :
    (contracts.fund account amount).Ends exchanges outcome ↔
      contracts.fundingWay? account amount = none ∧ exchanges = [] ∧ outcome = .ok () ∨
      ∃ way, contracts.fundingWay? account amount = some way ∧ way.Course exchanges outcome := by
  rw [fund_eq]
  cases contracts.fundingWay? account amount with
  | none => simp [Dialogue.Ends]
  | some way => simpa using way.ends_take_iff

/-- There is nothing to take for an amount of zero and in the mode that funds nothing. -/
theorem fundingWay?_eq_none_iff :
    contracts.fundingWay? account amount = none ↔ amount = 0 ∨ contracts.fundingMode = .none := by
  unfold fundingWay?
  split
  · rename_i zero
    exact ⟨fun _ => .inl zero, fun _ => rfl⟩
  · rename_i nonzero
    cases contracts.fundingMode with
    | none => exact ⟨fun _ => .inr rfl, fun _ => rfl⟩
    | native => exact ⟨nofun, fun unneeded => nomatch unneeded.resolve_left nonzero⟩
    | paymasterMint => exact ⟨nofun, fun unneeded => nomatch unneeded.resolve_left nonzero⟩

/-- The way taken is the one of the mode. -/
theorem fundingWay?_eq_some {way : FundingWay}
    (takes : contracts.fundingWay? account amount = some way) :
    contracts.fundingMode = .paymasterMint ∧ way = contracts.minting account amount ∨
      contracts.fundingMode = .native ∧ way = sending account amount := by
  unfold fundingWay? at takes
  split at takes
  · cases takes
  · cases mode : contracts.fundingMode with
    | none =>
        rw [mode] at takes
        cases takes
    | native =>
        rw [mode] at takes
        exact .inr ⟨rfl, (Option.some.inj takes).symm⟩
    | paymasterMint =>
        rw [mode] at takes
        exact .inl ⟨rfl, (Option.some.inj takes).symm⟩

/-- A transaction that mints has to have succeeded, and any other only has to be part of a block. -/
theorem verdict_some {way : FundingWay} (takes : contracts.fundingWay? account amount = some way)
    (receipt : TransactionReceipt) : way.verdict (some receipt) =
      if contracts.fundingMode = .paymasterMint ∧ receipt.status ≠ some 1 then
        .error (.mintReverted receipt.transaction)
      else .ok () := by
  rcases fundingWay?_eq_some takes with ⟨mode, rfl⟩ | ⟨mode, rfl⟩
  · by_cases succeeded : receipt.status = some 1
    · simp [FundingWay.verdict, minting, succeeded]
    · simp [FundingWay.verdict, minting, mode, succeeded]
  · rw [if_neg fun minted => by cases mode.symm.trans minted.1]
    rfl

/-- Funding succeeds exactly when there is a receipt and, for a mint, its status is one. -/
theorem verdict_eq_ok_iff {way : FundingWay}
    (takes : contracts.fundingWay? account amount = some way) {receipt : Option TransactionReceipt} :
    way.verdict receipt = .ok () ↔ ∃ known, receipt = some known ∧
      (contracts.fundingMode = .paymasterMint → known.status = some 1) := by
  cases receipt with
  | none => exact ⟨nofun, nofun⟩
  | some known =>
      rw [verdict_some takes]
      split
      · rename_i reverted
        refine ⟨nofun, ?_⟩
        rintro ⟨_, ⟨⟩, succeeded⟩
        exact absurd (succeeded reverted.1) reverted.2
      · rename_i accepted
        refine ⟨fun _ => ⟨known, rfl, ?_⟩, fun _ => rfl⟩
        intro mints
        exact Decidable.of_not_not fun failed => accepted ⟨mints, failed⟩

/-- What follows a transaction that settles is the verdict on its receipt. -/
theorem FundingWay.ends_take_settling_iff (way : FundingWay) {hash : Hash}
    {receipt : Option TransactionReceipt} :
    way.take.Ends (settling way.transaction hash receipt) outcome ↔ outcome = way.verdict receipt := by
  rw [ends_take_iff]
  constructor
  · intro course
    cases course with | settled _ _ judged =>
    exact judged.symm
  · rintro rfl
    exact .settled hash receipt rfl

/-- **When a wallet counts as funded.** Giving a first balance succeeds without a question exactly when
the amount is zero or the deployment does not fund, and else exactly when the transaction was passed
on and has become part of a block, with the status of success if it mints tokens. So a transaction that
nobody knows of any longer is a failure, and so is a minting that did not succeed, which the failure
names. A transfer of the chain's own currency counts whatever its status is. -/
theorem funded_iff (contracts : Contracts) (account : Address) (amount : Uint256) :
    (∀ exchanges, (contracts.fund account amount).Ends exchanges (.ok ()) ↔
      (amount = 0 ∨ contracts.fundingMode = .none) ∧ exchanges = [] ∨
        ∃ way hash receipt, contracts.fundingWay? account amount = some way ∧
          exchanges = settling way.transaction hash (some receipt) ∧
          (contracts.fundingMode = .paymasterMint → receipt.status = some 1)) ∧
    ∀ way hash outcome, contracts.fundingWay? account amount = some way →
      ((contracts.fund account amount).Ends (settling way.transaction hash none) outcome ↔
        outcome = .error way.dropped) ∧
      ∀ receipt, (contracts.fund account amount).Ends (settling way.transaction hash (some receipt))
          outcome ↔
        outcome = if contracts.fundingMode = .paymasterMint ∧ receipt.status ≠ some 1 then
          .error (.mintReverted receipt.transaction)
        else .ok () := by
  constructor
  · intro exchanges
    rw [ends_fund_iff, fundingWay?_eq_none_iff]
    constructor
    · rintro (⟨unneeded, silent, -⟩ | ⟨way, takes, course⟩)
      · exact .inl ⟨unneeded, silent⟩
      · cases course with | settled hash receipt judged =>
        obtain ⟨known, rfl, succeeded⟩ := (verdict_eq_ok_iff takes).mp judged
        exact .inr ⟨way, hash, known, takes, rfl, succeeded⟩
    · rintro (⟨unneeded, silent⟩ | ⟨way, hash, receipt, takes, rfl, succeeded⟩)
      · exact .inl ⟨unneeded, silent, rfl⟩
      · have judged := (verdict_eq_ok_iff takes).mpr ⟨receipt, rfl, succeeded⟩
        exact .inr ⟨way, takes, .settled hash (some receipt) judged⟩
  · intro way hash outcome takes
    rw [fund_eq, takes]
    refine ⟨way.ends_take_settling_iff, ?_⟩
    intro receipt
    rw [way.ends_take_settling_iff, verdict_some takes]

/-- The contracts of a deployment that funds wallets in some way. -/
def funders (mode : FundingMode) : Contracts where
  entryPoint := .filled 20 0xee
  factory := .filled 20 0xfa
  fundingMode := mode
  fundingPaymaster := .filled 20 0xaa

/-- A wallet without a balance. -/
def newcomer : Address := .filled 20 0x5e

/-- A receipt with a status. -/
def receiptWith (status : Option Nat) : TransactionReceipt where
  transaction := .filled 32 0xab
  status := status

/-- A minting counts with the status of success, and without any status it is reverted. A transfer that
is dropped does not count. -/
theorem funded_iff_settled :
    ((funders .paymasterMint).fund newcomer 1000).Ends
      (settling ((funders .paymasterMint).minting newcomer 1000).transaction (.filled 32 0xab)
        (some (receiptWith (some 1)))) (.ok ()) ∧
    ((funders .paymasterMint).fund newcomer 1000).Ends
      (settling ((funders .paymasterMint).minting newcomer 1000).transaction (.filled 32 0xab)
        (some (receiptWith none))) (.error (.mintReverted (.filled 32 0xab))) ∧
    ((funders .native).fund newcomer 1000).Ends
      (settling (sending newcomer 1000).transaction (.filled 32 0xab) none)
      (.error .fundingDropped) := by
  obtain ⟨funded, judged⟩ := funded_iff (funders .paymasterMint) newcomer 1000
  obtain ⟨-, sent⟩ := funded_iff (funders .native) newcomer 1000
  refine ⟨?_, ?_, ?_⟩
  · exact (funded _).mpr (.inr ⟨_, _, receiptWith (some 1), rfl, rfl, fun _ => rfl⟩)
  · exact ((judged _ _ _ rfl).2 (receiptWith none)).mpr rfl
  · exact (sent _ _ _ rfl).1.mpr rfl

/-- A transfer that failed in its block counts as a first balance all the same. -/
theorem funded_by_failed_transfer :
    ((funders .native).fund newcomer 1000).Ends
      (settling (sending newcomer 1000).transaction (.filled 32 0xab)
        (some (receiptWith (some 0)))) (.ok ()) :=
  ⟨_, _, rfl, _, [], rfl, rfl, rfl⟩

end AccountRelay.Contracts
