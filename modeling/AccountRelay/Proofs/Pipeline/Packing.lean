import AccountRelay.Pipeline
import AccountRelay.Proofs.Dialogue.Histories
import AccountRelay.Proofs.Pipeline.Questions

/-! # An attempt that shows what it packs

An operation is packed several times on its way, and packing leaves no trace where it fails. In
`Shown.send` the attempt to send an operation asks for each packed form that it needs. When these
questions are answered on the spot it is `Pipeline.send` (`Shown.inPlace_send`). So what was packed in a
run can be told, up to the packing that failed (`Shown.exists_isShown`).
-/

namespace AccountRelay

/-- The packing of operations as questions. -/
abbrev Packing : Interface := ⟨Operation, fun _ => Except TooWide PackedOperation⟩

/-- A computation that asks the services, and for packed forms. -/
abbrev ShownWork := Dialogue (Services.sum Packing) Failure

namespace Shown

variable {α : Type}

/-- Asks for the packed form of an operation. -/
def pack (operation : Operation) : ShownWork PackedOperation :=
  .ask (.inr operation : (Services.sum Packing).Request) fun (packed : Except TooWide PackedOperation) =>
    .ofExcept (packed.mapError .tooWide)

/-- `Services.holding`, for what shows its packing. -/
def holding (sender : Address) (action : ShownWork α) : ShownWork α := do
  (Services.asking (.acquire sender) fun _ => .done ()).inl
  let outcome ← action.attempt
  (Services.asking (.release sender) fun _ => .done ()).inl
  .ofExcept outcome

/-- `Authorization.authorize` with its packing shown. -/
def authorize (validity now : UInt64) (operation : Operation) :
    ShownWork (Operation × ValidityWindow) := do
  match operation.activePaymaster with
  | none => .fail .nothingToAuthorize
  | some paymaster =>
    let window ← .ofExcept (ValidityWindow.startingAt now validity)
    let packed ← pack operation
    let hash ← (Services.paymasterHash paymaster packed window).inl
    let signature ← (Services.within .paymasterSigner (Services.paymasterSign hash)).inl
    return ({ operation with paymasterData := Sponsorship.encode window signature }, window)

/-- `Pipeline.settle` with its packing shown. -/
def settle (pipeline : Pipeline) (request : Request) (draft : Draft .estimated) :
    ShownWork (Draft .settled) :=
  match request.paymaster.filter fun paymaster => !paymaster.isZero with
  | some _ => do
    let now ← Services.now.inl
    let (operation, _) ← authorize pipeline.deployment.paymasterValidity now draft.operation
    return ⟨operation⟩
  | none => .ofExcept draft.withoutPaymaster

/-- `Draft.sign` with its packing shown. -/
def sign (draft : Draft .settled) : ShownWork SignedOperation := do
  let operation := { draft.operation with signature := [] }
  let packed ← pack operation
  let hash ← (Services.operationHash packed).inl
  let signature ← (Services.within .ownerSigner (Services.ownerSign hash)).inl
  return { operation := { operation with signature }, hash }

/-- `Pipeline.crossCheck` with its packing shown. -/
def crossCheck (pipeline : Pipeline) (signed : SignedOperation) : ShownWork Unit := do
  let packed ← pack signed.operation
  if packed.hash pipeline.deployment.entryPoint pipeline.deployment.chainId ≠ signed.hash then
    (Services.warn .localHash).inl

/-- `Pipeline.sendResolved` with its packing shown. -/
def sendResolved (pipeline : Pipeline) (request : Request) (wallet : Resolution) : ShownWork Hash := do
  let nonce ← (Services.nonce wallet.sender).inl
  let draft := pipeline.draft request wallet nonce
  let estimated ←
    (draft.estimate pipeline.deployment.gasPolicy pipeline.deployment.entryPoint).inl
  let settled ← settle pipeline request estimated
  let signed ← sign settled
  crossCheck pipeline signed
  (Submission.submit pipeline.deployment.entryPoint signed).inl

/-- `Pipeline.send` with its packing shown. -/
def send (pipeline : Pipeline) (request : Request) : ShownWork Hash := do
  let sender ← (pipeline.resolver.senderAddress request.wallet).inl
  holding sender do
    let wallet ← (pipeline.resolver.resolve request.wallet).inl
    sendResolved pipeline request wallet

/-! ## The same attempt -/

/-- What an attempt is when it packs on the spot. -/
def inPlace (work : ShownWork α) : Consultation α :=
  work.interpret (Dialogue.onTheSpot Operation.pack)

/-- What goes on packs on the spot part by part. -/
@[simp]
theorem inPlace_bind {β : Type} (work : ShownWork α) (next : α → ShownWork β) :
    inPlace (work >>= next) = inPlace work >>= fun value => inPlace (next value) :=
  Dialogue.interpret_bind _ work next

/-- What is done has nothing to pack. -/
@[simp]
theorem inPlace_done (value : α) : inPlace (.done value) = .done value := rfl

/-- A consultation packs nothing that is shown. -/
@[simp]
theorem inPlace_inl (consultation : Consultation α) : inPlace consultation.inl = consultation :=
  Dialogue.interpret_onTheSpot_inl consultation

/-- An outcome has nothing to pack. -/
@[simp]
theorem inPlace_ofExcept (outcome : Except Failure α) :
    inPlace (.ofExcept outcome) = .ofExcept outcome :=
  Dialogue.interpret_onTheSpot_ofExcept outcome

/-- On the spot an operation packs or fails for its width. -/
@[simp]
theorem inPlace_pack (operation : Operation) :
    inPlace (pack operation) = .ofExcept (operation.pack.mapError .tooWide) :=
  inPlace_ofExcept _

/-- An attempt packs on the spot what it attempts. -/
@[simp]
theorem inPlace_attempt (work : ShownWork α) :
    inPlace (work.attempt : ShownWork (Except Failure α)) = (inPlace work).attempt :=
  Dialogue.interpret_onTheSpot_attempt work

/-- Under a lock the work packs on the spot. -/
theorem inPlace_holding (sender : Address) (action : ShownWork α) :
    inPlace (holding sender action) = Services.holding sender (inPlace action) := by
  simp only [holding, inPlace_bind, inPlace_inl, inPlace_attempt, inPlace_ofExcept]
  rfl

/-- On the spot the authorization is the one of the pipeline. -/
theorem inPlace_authorize (validity now : UInt64) (operation : Operation) :
    inPlace (authorize validity now operation) = Authorization.authorize validity now operation := by
  unfold authorize Authorization.authorize
  cases operation.activePaymaster with
  | none => rfl
  | some paymaster =>
      simp only [inPlace_bind, inPlace_inl, inPlace_ofExcept, inPlace_pack, Dialogue.pure_eq,
        inPlace_done]

/-- On the spot a draft is settled as by the pipeline. -/
theorem inPlace_settle (pipeline : Pipeline) (request : Request) (draft : Draft .estimated) :
    inPlace (settle pipeline request draft) = pipeline.settle request draft := by
  unfold settle Pipeline.settle
  cases request.paymaster.filter fun paymaster => !paymaster.isZero with
  | none => exact inPlace_ofExcept _
  | some paymaster =>
      simp only [inPlace_bind, inPlace_inl, inPlace_authorize, Draft.authorize, Dialogue.bind_assoc,
        Dialogue.pure_eq, Dialogue.done_bind, inPlace_done]

/-- On the spot a draft is signed as by the pipeline. -/
theorem inPlace_sign (draft : Draft .settled) : inPlace (sign draft) = draft.sign := by
  simp only [sign, inPlace_bind, inPlace_inl, inPlace_pack, Dialogue.pure_eq, inPlace_done]
  rfl

/-- On the spot the last check is that of the pipeline. -/
theorem inPlace_crossCheck (pipeline : Pipeline) (signed : SignedOperation) :
    inPlace (crossCheck pipeline signed) = pipeline.crossCheck signed := by
  simp only [crossCheck, Pipeline.crossCheck, inPlace_bind, inPlace_pack]
  refine congrArg (Dialogue.ofExcept _ >>= ·) (funext fun packed => ?_)
  split
  · exact inPlace_inl _
  · rfl

/-- On the spot an attempt for a resolved wallet is that of the pipeline. -/
theorem inPlace_sendResolved (pipeline : Pipeline) (request : Request) (wallet : Resolution) :
    inPlace (sendResolved pipeline request wallet) = pipeline.sendResolved request wallet := by
  simp only [sendResolved, Pipeline.sendResolved, inPlace_bind, inPlace_inl, inPlace_settle,
    inPlace_sign, inPlace_crossCheck]

/-- An attempt that packs on the spot is the one that does not show its packing. -/
theorem inPlace_send (pipeline : Pipeline) (request : Request) :
    inPlace (send pipeline request) = pipeline.send request := by
  simp only [send, Pipeline.send, inPlace_bind, inPlace_inl, inPlace_holding, inPlace_sendResolved,
    Pipeline.sendLocked_eq]

/-! ## What was packed -/

/-- The operation that was packed, or that a bundler was handed and may pack. -/
def packed? (exchange : Exchange (Services.sum Packing)) : Option Operation :=
  match exchange.request with
  | .inl (.send operation _) => some operation
  | .inr operation => some operation
  | _ => none

/-- The exchanges of an attempt, together with its packing. -/
structure IsShown (pipeline : Pipeline) (request : Request) (exchanges : List (Exchange Services))
    (outcome : Except Failure Hash) (shown : List (Exchange (Services.sum Packing))) : Prop where
  ends : (send pipeline request).Ends shown outcome
  asked : shown.filterMap Exchange.left? = exchanges
  packs : ∀ exchange ∈ shown.filterMap Exchange.right?, exchange.reply = exchange.request.pack

/-- For every attempt that ended its packing can be told. -/
theorem exists_isShown {pipeline : Pipeline} {request : Request} {exchanges : List (Exchange Services)}
    {outcome : Except Failure Hash} (ends : (pipeline.send request).Ends exchanges outcome) :
    ∃ shown, IsShown pipeline request exchanges outcome shown := by
  rw [← inPlace_send] at ends
  obtain ⟨shown, asked, packs, shows⟩ := ends.of_interpret_onTheSpot
  exact ⟨shown, shows, asked, packs⟩

end Shown

end AccountRelay
