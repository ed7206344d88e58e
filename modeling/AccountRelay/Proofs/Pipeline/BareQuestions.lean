import AccountRelay.Proofs.Dialogue.Likeness
import AccountRelay.Proofs.Operation.Packing
import AccountRelay.Proofs.Pipeline.Questions
import AccountRelay.Relay

/-! # What is asked without the data of the paymaster

A request can bring data along that stand in for the authorization of its paymaster. They are part of
two questions: of the estimate, and of the hash that the paymaster signs. A bare question is one without
them. An attempt that asks its bare questions does not depend on the data (`Pipeline.bared_send`). So the
courses that it can take do not depend on them but for these questions (`Consultation.ends_bared_iff`),
and a world that answers a question as it does the bare one goes along in the same way
(`Disregards.exists_follows`).
-/

namespace AccountRelay

namespace ServiceRequest

/-- The question without the paymaster's own data, if it is about an operation that is not yet
authorized. -/
def bare : ServiceRequest → ServiceRequest
  | .estimate operation entryPoint => .estimate { operation with paymasterData := [] } entryPoint
  | .paymasterHash paymaster operation window =>
    .paymasterHash paymaster { operation with
      paymasterAndData := operation.paymasterAndData.take paymasterDataOffset } window
  | request => request

/-- The bare form of a bare question is itself. -/
theorem bare_bare (request : ServiceRequest) : request.bare.bare = request.bare := by
  cases request with
  | paymasterHash paymaster operation window => simp only [bare, List.take_take, Nat.min_self]
  | _ => rfl

/-- A bare question is answered in kind. -/
theorem answer_bare (request : ServiceRequest) : request.bare.Answer = request.Answer := by
  cases request with
  | _ => rfl

/-- Asks the bare question. -/
def askBare (request : ServiceRequest) : Consultation request.Answer :=
  .ask request.bare fun reply => .done (cast request.answer_bare reply)

/-- The answers of a world to the bare questions. -/
def answerBare {σ : Type} (answer : (request : ServiceRequest) → σ → request.Answer × σ)
    (request : ServiceRequest) (state : σ) : request.Answer × σ :=
  let (reply, state) := answer request.bare state
  (cast request.answer_bare reply, state)

end ServiceRequest

open ServiceRequest (askBare answerBare)

/-- The exchange with the bare question. -/
def Exchange.bare (exchange : Exchange Services) : Exchange Services where
  request := ServiceRequest.bare exchange.request
  reply := cast (ServiceRequest.answer_bare exchange.request).symm exchange.reply

namespace Consultation

variable {α β : Type}

/-- The consultation that asks the bare questions. -/
def bared (consultation : Consultation α) : Consultation α :=
  consultation.interpret askBare

/-- A consultation is bared part by part. -/
theorem bared_bind (consultation : Consultation α) (next : α → Consultation β) :
    bared (consultation >>= next) = bared consultation >>= fun value => bared (next value) :=
  @Dialogue.interpret_bind Services Services Failure α β askBare consultation next

/-- What asks nothing has nothing to bare. -/
@[simp]
theorem bared_done (value : α) : bared (.done value) = .done value := rfl

/-- An outcome has nothing to bare. -/
@[simp]
theorem bared_ofExcept (outcome : Except Failure α) : bared (.ofExcept outcome) = .ofExcept outcome := by
  cases outcome with
  | ok value => rfl
  | error failure => rfl

/-- An attempt is bared as what it attempts. -/
theorem bared_attempt (consultation : Consultation α) :
    bared (consultation.attempt : Consultation (Except Failure α)) = (bared consultation).attempt := by
  induction consultation with
  | done value => rfl
  | fail failure => rfl
  | ask request follow ih =>
      -- What kind of answer a bare question gets is only known of one question at a time.
      cases request with
      | _ => exact congrArg (Dialogue.ask _) (funext ih)

/-- Under a lock the work is bared. -/
theorem bared_holding (sender : Address) (action : Consultation α) :
    bared (Services.holding sender action) = Services.holding sender (bared action) := by
  have released (outcome : Except Failure α) :
      bared (Services.asking (.release sender) fun _ => .ofExcept outcome) =
        Services.asking (.release sender) fun _ => .ofExcept outcome :=
    congrArg (Dialogue.ask _) (funext fun _ => bared_ofExcept outcome)
  have held : bared (action.attempt >>= fun outcome =>
      Services.asking (.release sender) fun _ => .ofExcept outcome) =
        (bared action).attempt >>= fun outcome =>
          Services.asking (.release sender) fun _ => .ofExcept outcome := by
    rw [bared_bind, bared_attempt]
    exact congrArg _ (funext released)
  exact congrArg (Dialogue.ask (.acquire sender : Services.Request)) (funext fun _ => held)

end Consultation

open Consultation (bared bared_bind bared_attempt bared_ofExcept bared_holding)

/-- A draft with other data of the paymaster. -/
def Draft.withData {stage : DraftStage} (draft : Draft stage) (data : Bytes) : Draft stage where
  operation := { draft.operation with paymasterData := data }

/-- Filling in gas and fees asks the same bare questions whatever the paymaster's data, which stay as
they are. -/
theorem Estimation.bared_apply (policy : GasPolicy) (entryPoint : Address) (operation : Operation)
    (data : Bytes) :
    bared (apply policy entryPoint { operation with paymasterData := data }) =
      bared (apply policy entryPoint operation) >>= fun result =>
        .done { result with operation := { result.operation with paymasterData := data } } := by
  have limited : bared (limits policy entryPoint { operation with paymasterData := data }) =
    bared (limits policy entryPoint operation) := rfl
  unfold apply
  rw [bared_bind, bared_bind, bared_attempt, bared_attempt, limited, Dialogue.bind_assoc]
  refine congrArg _ (funext fun found => ?_)
  cases found with
  | error failure => rfl
  | ok gas =>
      simp only
      rw [bared_bind, bared_bind, bared_attempt, Dialogue.bind_assoc]
      refine congrArg _ (funext fun found => ?_)
      cases found with
      | error failure => rfl
      | ok fees => rfl

/-- An estimate asks the same bare questions whatever the paymaster's data, which stay as they are. -/
theorem Draft.bared_estimate (draft : Draft .started) (policy : GasPolicy) (entryPoint : Address)
    (data : Bytes) :
    bared ((draft.withData data).estimate policy entryPoint) =
      bared (draft.estimate policy entryPoint) >>= fun estimated =>
        .done (estimated.withData data) := by
  unfold estimate
  rw [bared_bind, bared_bind, Dialogue.bind_assoc]
  change bared (Estimation.apply policy entryPoint { draft.operation with paymasterData := data })
    >>= _ = _
  rw [Estimation.bared_apply, Dialogue.bind_assoc]
  refine congrArg _ (funext fun result => ?_)
  obtain ⟨operation, failure | _⟩ := result
  · rfl
  · rfl

/-- The question for the hash that a paymaster signs is bare up to the paymaster's own data. -/
theorem Services.bared_paymasterHash (paymaster : Address) (packed : PackedOperation)
    (window : ValidityWindow) (bytes : Bytes)
    (cut : bytes.take paymasterDataOffset = packed.paymasterAndData.take paymasterDataOffset) :
    bared (paymasterHash paymaster { packed with paymasterAndData := bytes } window) =
      bared (paymasterHash paymaster packed window) :=
  -- The type of the answer depends on the question, so the bytes in it cannot be rewritten.
  congrArg (fun own : Bytes => asking (.paymasterHash paymaster
    { packed with paymasterAndData := own } window) fun reply => bared (.ofExcept reply)) cut

/-- An authorization replaces the paymaster's data, so those do not matter for its bare questions. -/
theorem Authorization.bared_authorize (validity now : UInt64) (operation : Operation) (data : Bytes) :
    bared (authorize validity now { operation with paymasterData := data }) =
      bared (authorize validity now operation) := by
  unfold authorize
  have still : { operation with paymasterData := data }.activePaymaster = operation.activePaymaster :=
    rfl
  rw [still]
  cases active : operation.activePaymaster with
  | none => rfl
  | some paymaster =>
      simp only
      rw [bared_bind, bared_bind, bared_ofExcept]
      refine congrArg _ (funext fun window => ?_)
      rw [bared_bind, bared_bind, bared_ofExcept, bared_ofExcept, Operation.pack_withData active]
      cases packs : operation.pack with
      | error fault => rfl
      | ok packed =>
          have cut : (packed.paymasterAndData.take paymasterDataOffset).length = paymasterDataOffset :=
            List.length_take_of_le (Operation.le_length_paymasterAndData active packs)
          have asked := Services.bared_paymasterHash paymaster packed window
            (packed.paymasterAndData.take paymasterDataOffset ++ data) (List.take_left' cut)
          change bared (_ >>= _) = bared (_ >>= _)
          rw [bared_bind, bared_bind, asked]

/-- The authorization of a draft does not depend on the paymaster's data that it brings along. -/
theorem Draft.bared_authorize (draft : Draft .estimated) (validity now : UInt64) (data : Bytes) :
    bared ((draft.withData data).authorize validity now) = bared (draft.authorize validity now) := by
  unfold authorize
  rw [bared_bind, bared_bind]
  exact congrArg (· >>= _) (Authorization.bared_authorize validity now draft.operation data)

namespace Pipeline

variable (pipeline : Pipeline) (request : Request)

/-- With a paymaster, settling does not depend on the data that the draft brings along. -/
theorem bared_settle {draft : Draft .estimated} (data : Bytes)
    (sponsored : (request.paymaster.filter fun paymaster => !paymaster.isZero).isSome) :
    bared (pipeline.settle request (draft.withData data)) = bared (pipeline.settle request draft) := by
  unfold settle
  obtain ⟨paymaster, sponsor⟩ := Option.isSome_iff_exists.mp sponsored
  rw [sponsor]
  simp only
  rw [bared_bind, bared_bind]
  refine congrArg _ (funext fun now => ?_)
  rw [bared_bind, bared_bind, Draft.bared_authorize]

/-- An attempt for a resolved wallet does not depend, in its bare questions, on the data that the
request brings along. -/
theorem bared_sendResolved (data : Bytes) (wallet : Resolution) :
    bared (pipeline.sendResolved { request with paymasterData := data } wallet) =
      bared (pipeline.sendResolved request wallet) := by
  refine (bared_bind _ _).trans ((congrArg _ (funext fun nonce => ?_)).trans (bared_bind _ _).symm)
  cases sponsor : request.paymaster.filter fun paymaster => !paymaster.isZero with
  | none =>
      have same : pipeline.draft { request with paymasterData := data } wallet nonce =
          pipeline.draft request wallet nonce := by
        unfold draft
        rw [sponsor]
      rw [same]
      rfl
  | some paymaster =>
      have same : pipeline.draft { request with paymasterData := data } wallet nonce =
          (pipeline.draft request wallet nonce).withData data := by
        unfold draft
        rw [sponsor]
        rfl
      have sponsored : (request.paymaster.filter fun paymaster => !paymaster.isZero).isSome := by
        rw [sponsor]
        rfl
      rw [same]
      simp only
      rw [bared_bind, bared_bind, Draft.bared_estimate, Dialogue.bind_assoc]
      refine congrArg _ (funext fun estimated => ?_)
      change bared (pipeline.settle request (estimated.withData data) >>= _) = _
      rw [bared_bind, bared_bind, pipeline.bared_settle request data sponsored]

/-- What an attempt asks without the paymaster's own data does not depend on the data that the request
brings along. -/
theorem bared_send (data : Bytes) :
    bared (pipeline.send { request with paymasterData := data }) = bared (pipeline.send request) := by
  refine (bared_bind _ _).trans ((congrArg _ (funext fun sender => ?_)).trans (bared_bind _ _).symm)
  rw [bared_holding, bared_holding, sendLocked_eq, sendLocked_eq, bared_bind, bared_bind]
  exact congrArg _ (congrArg _ (funext fun wallet => pipeline.bared_sendResolved request data wallet))

end Pipeline

/-! ## Courses -/

namespace ServiceRequest

/-- A bare question is put once, and its answer is passed on. -/
theorem ends_askBare_iff {request : ServiceRequest} {exchanges : List (Exchange Services)}
    {reply : request.Answer} :
    (askBare request).Ends exchanges (.ok reply) ↔ exchanges = [Exchange.bare ⟨request, reply⟩] := by
  constructor
  · intro ends
    cases request with
    | _ =>
      obtain ⟨_, _, rfl, rfl, ⟨⟩⟩ := ends
      rfl
  · rintro rfl
    cases request with
    | _ => exact ⟨reply, [], rfl, rfl, rfl⟩

/-- A bare question never fails by itself. -/
theorem not_ends_askBare (request : ServiceRequest) (exchanges : List (Exchange Services))
    (failure : Failure) : ¬ (askBare request).Ends exchanges (.error failure) := by
  rintro ⟨_, _, -, -, ⟨⟩⟩

/-- Bare questions serve for the questions they stand for. -/
theorem serves_askBare_iff {exchanges below : List (Exchange Services)} :
    Dialogue.Serves (I := Services) askBare exchanges below ↔
      below = exchanges.map Exchange.bare := by
  induction exchanges generalizing below with
  | nil => exact Iff.rfl
  | cons exchange rest ih =>
      constructor
      · rintro ⟨own, behind, rfl, answered, serves⟩
        rw [ends_askBare_iff.mp answered, ih.mp serves]
        rfl
      · rintro rfl
        exact ⟨[exchange.bare], rest.map Exchange.bare, rfl, ends_askBare_iff.mpr rfl, ih.mpr rfl⟩

end ServiceRequest

namespace Consultation

variable {α : Type} {consultation : Consultation α}

/-- The bare questions get the answers that the questions get. -/
theorem ends_bared_iff {below : List (Exchange Services)} {outcome : Except Failure α} :
    (bared consultation).Ends below outcome ↔
      ∃ exchanges, consultation.Ends exchanges outcome ∧ exchanges.map Exchange.bare = below := by
  constructor
  · intro ends
    obtain ⟨exchanges, ends, serves⟩ := Dialogue.Ends.of_interpret ServiceRequest.not_ends_askBare ends
    exact ⟨exchanges, ends, (ServiceRequest.serves_askBare_iff.mp serves).symm⟩
  · rintro ⟨exchanges, ends, rfl⟩
    exact ends.of_serves (ServiceRequest.serves_askBare_iff.mpr rfl)

end Consultation

/-- Whether a question hands an operation to the bundler or funds an account. -/
def ServiceRequest.spends : ServiceRequest → Bool
  | .send _ _ | .fund _ _ => true
  | _ => false

/-- The exchanges in which an operation is handed over or an account is funded. -/
def Exchange.spending (exchanges : List (Exchange Services)) : List (Exchange Services) :=
  exchanges.filter fun exchange => ServiceRequest.spends exchange.request

/-- What is handed over and what is funded is the same in bare questions. -/
theorem Exchange.spending_bare (exchanges : List (Exchange Services)) :
    spending (exchanges.map bare) = spending exchanges := by
  induction exchanges with
  | nil => rfl
  | cons exchange rest ih =>
      obtain ⟨request, reply⟩ := exchange
      cases request with
      | send operation entryPoint => exact congrArg (List.cons _) ih
      | fund account amount => exact congrArg (List.cons _) ih
      | _ => exact ih

/-! ## Worlds -/

section

open Dialogue (Follows)

variable {σ : Type} {answer : (request : ServiceRequest) → σ → request.Answer × σ}
  {same : σ → σ → Prop}

/-- A world that answers a question as it does the bare one. -/
structure Disregards (answer : (request : ServiceRequest) → σ → request.Answer × σ)
    (same : σ → σ → Prop) : Prop extends Likeness (I := Services) answer same where
  bare : ∀ request {state}, same state state →
    (answer request state).1 = (answerBare answer request state).1 ∧
      same (answer request state).2 (answerBare answer request state).2

/-- A world that disregards the data answers a question as it does the bare one. -/
theorem Disregards.answers_bare (disregards : Disregards answer same) (request : ServiceRequest)
    {one other : σ} (begins : same one other) :
    (answer request one).1 = (answerBare answer request other).1 ∧
      same (answer request one).2 (answerBare answer request other).2 := by
  obtain ⟨reply, leaves⟩ := disregards.answers request begins
  obtain ⟨reply', leaves'⟩ :=
    disregards.bare request (disregards.trans (disregards.symm begins) begins)
  exact ⟨reply.trans reply', disregards.trans leaves leaves'⟩

/-- An answer to a bare question is the answer to the question. -/
theorem Exchange.answerBare_eq_iff {exchange : Exchange Services} {before after : σ} :
    answerBare answer exchange.request before = (exchange.reply, after) ↔
      answer exchange.bare.request before = (exchange.bare.reply, after) := by
  obtain ⟨request, reply⟩ := exchange
  cases request with
  | _ => exact Iff.rfl

/-- With exchanges that differ only in what bare questions leave out the world goes on in the same
way. -/
theorem Disregards.exists_follows (disregards : Disregards answer same)
    {exchanges others : List (Exchange Services)}
    (bares : others.map Exchange.bare = exchanges.map Exchange.bare) {one after two : σ}
    (follows : Follows (I := Services) answer one exchanges after) (begins : same one two) :
    ∃ after', Follows (I := Services) answer two others after' ∧ same after after' := by
  induction exchanges generalizing others one two with
  | nil =>
      obtain rfl : after = one := follows
      obtain rfl := List.map_eq_nil_iff.mp bares
      exact ⟨two, rfl, begins⟩
  | cons exchange rest ih =>
      obtain ⟨other, behind, rfl, own, bares⟩ := List.map_eq_cons_iff.mp bares
      obtain ⟨middle, answered, follows⟩ := follows
      obtain ⟨reply, leaves⟩ := disregards.answers_bare exchange.request begins
      rw [answered] at reply leaves
      have bare : answerBare answer other.request two =
          (other.reply, (answerBare answer exchange.request two).2) := by
        rw [Exchange.answerBare_eq_iff, own, ← Exchange.answerBare_eq_iff]
        exact Prod.ext reply.symm rfl
      obtain ⟨reply', leaves'⟩ := disregards.bare other.request
        (disregards.trans (disregards.symm begins) begins)
      rw [bare] at reply' leaves'
      obtain ⟨after', follows', ends⟩ := ih bares follows
        (disregards.trans leaves (disregards.symm leaves'))
      exact ⟨after', ⟨(answer other.request two).2, Prod.ext reply' rfl, follows'⟩, ends⟩

end

end AccountRelay
