import AccountRelay.Pipeline
import AccountRelay.Proofs.Dialogue.Conduct

/-! # The course of a run

A run of `Pipeline.send` takes the lock of its sender, reads the sender's nonce once, sends one
operation with that sender and that nonce, and gives the lock back. How far it has come is its
`Stance`; what it may ask depends on it (`Stance.Permits`). Between the lock and its return a run
asks for no other sender's nonce and sends for no other sender, so the lock it has is the right one
(`Pipeline.keeps_send`), as long as the wallet of an owner and a salt is always the same.
-/

namespace AccountRelay

/-- What a run does that others can see. -/
inductive Act
  | asked (request : ServiceRequest)
  | answered (request : ServiceRequest) (reply : request.Answer)

/-- How far a run has come with the sender whose lock it takes. -/
inductive Stance
  /-- Has no lock yet. -/
  | apart
  /-- Has the lock. -/
  | locked (sender : Address)
  /-- Has the lock and knows the nonce. -/
  | informed (sender : Address) (nonce : Uint256)
  /-- Has the lock, and the bundler has answered. -/
  | settled (sender : Address)
  /-- Has given the lock back. -/
  | gone
deriving DecidableEq

namespace Stance

/-- The sender whose lock a run has. -/
def lock? : Stance → Option Address
  | .apart => none
  | .locked sender => some sender
  | .informed sender _ => some sender
  | .settled sender => some sender
  | .gone => none

/-- The stance of a run after one of its acts. -/
def next : Stance → Act → Stance
  | _, .answered (.acquire sender) _ => .locked sender
  | _, .asked (.release _) => .gone
  | .locked sender, .answered (.nonce _) (.ok nonce) => .informed sender nonce
  | .informed sender _, .answered (.send _ _) _ => .settled sender
  | stance, _ => stance

/-- What a run may ask. -/
def Permits (stance : Stance) : ServiceRequest → Prop
  | .acquire _ => stance = .apart
  | .release sender => stance.lock? = some sender
  | .nonce sender => stance = .locked sender
  | .send operation _ => stance = .informed operation.sender operation.nonce
  | _ => True

/-- Questions that any run may ask at any time, and whose answers do not change its stance. -/
def Neutral : ServiceRequest → Prop
  | .acquire _ | .release _ | .nonce _ | .send _ _ => False
  | _ => True

/-- A neutral question may be asked in any stance. -/
theorem permits_of_neutral {request : ServiceRequest} (neutral : Neutral request)
    (stance : Stance) : stance.Permits request := by
  cases request <;> first | exact trivial | exact neutral.elim

/-- Asking a neutral question changes no stance. -/
theorem next_asked_of_neutral {request : ServiceRequest} (neutral : Neutral request)
    (stance : Stance) : stance.next (.asked request) = stance := by
  cases request <;> first | exact neutral.elim | (cases stance <;> rfl)

/-- The answer to a neutral question changes no stance. -/
theorem next_answered_of_neutral {request : ServiceRequest} (neutral : Neutral request)
    (reply : request.Answer) (stance : Stance) :
    stance.next (.answered request reply) = stance := by
  cases request <;> first | exact neutral.elim | (cases stance <;> rfl)

end Stance

/-- What is to be expected of an answer: wallets are derived as given, if they are. -/
def DerivesAs (derive : Address → Salt → Address) :
    (request : ServiceRequest) → request.Answer → Prop
  | .counterfactualAddress owner salt, reply =>
    ∀ wallet, reply = (.ok wallet : Except Failure Address) → wallet = derive owner salt
  | _, _ => True

/-- The conduct of a run. -/
def sendConduct (derive : Address → Salt → Address) : Conduct Services Stance where
  permits := Stance.Permits
  expects := DerivesAs derive
  next stance request reply := (stance.next (.asked request)).next (.answered request reply)

/-! ## What a run asks between the lock and its return -/

/-- A consultation that asks neutral questions only, and whose value satisfies a condition. -/
def Neutrally {α : Type} (derive : Address → Salt → Address) (holds : α → Prop)
    (consultation : Consultation α) : Prop :=
  ∀ stance, consultation.Keeps (sendConduct derive)
    (fun outcome after => after = stance ∧ ∀ value, outcome = .ok value → holds value) stance

namespace Neutrally

variable {α β : Type} {derive : Address → Salt → Address} {holds : α → Prop}

/-- What is done has its value, in the same stance. -/
theorem done {value : α} (held : holds value) : Neutrally derive holds (.done value) := by
  intro stance
  refine ⟨rfl, ?_⟩
  intro other same
  rw [← Except.ok.inj same]
  exact held

/-- What fails has no value, and the stance is the same. -/
theorem fail (failure : Failure) : Neutrally derive holds (.fail failure) := by
  intro stance
  refine ⟨rfl, ?_⟩
  intro value same
  cases same

/-- An outcome is neutral if its value satisfies the condition. -/
theorem ofExcept {outcome : Except Failure α} (held : ∀ value, outcome = .ok value → holds value) :
    Neutrally derive holds (.ofExcept outcome) := by
  cases outcome with
  | ok value => exact done (held value rfl)
  | error failure => exact fail failure

/-- An outcome whose value may be anything. -/
theorem ofExcept_any (outcome : Except Failure α) :
    Neutrally derive (fun _ => True) (.ofExcept outcome) :=
  ofExcept fun _ _ => trivial

/-- A neutral question is followed by what is neutral for each answer to be expected. -/
theorem asking (request : ServiceRequest) (neutral : Stance.Neutral request)
    {next : request.Answer → Consultation α}
    (follows : ∀ reply, DerivesAs derive request reply → Neutrally derive holds (next reply)) :
    Neutrally derive holds (Services.asking request next) := by
  intro stance
  refine ⟨Stance.permits_of_neutral neutral stance, ?_⟩
  intro reply expected
  have unchanged : (sendConduct derive).next stance request reply = stance := by
    change (stance.next (.asked request)).next (.answered request reply) = stance
    rw [Stance.next_asked_of_neutral neutral, Stance.next_answered_of_neutral neutral]
  rw [unchanged]
  exact follows reply expected stance

/-- A neutral question whose answer may be anything. -/
theorem asking_ofExcept (request : ServiceRequest) (neutral : Stance.Neutral request)
    (outcome : request.Answer → Except Failure α) :
    Neutrally derive (fun _ => True)
      (Services.asking request fun reply => Dialogue.ofExcept (outcome reply)) :=
  asking request neutral fun _ _ => ofExcept_any _

/-- Neutral work that goes on with neutral work is neutral. -/
theorem bind {holds' : β → Prop} {consultation : Consultation α} {next : α → Consultation β}
    (first : Neutrally derive holds consultation)
    (follows : ∀ value, holds value → Neutrally derive holds' (next value)) :
    Neutrally derive holds' (consultation >>= next) := by
  intro stance
  apply (first stance).bind
  · rintro value after ⟨rfl, held⟩
    exact follows value (held value rfl) after
  · rintro failure after ⟨rfl, -⟩
    exact ⟨rfl, fun value same => by cases same⟩

/-- A run goes on from a neutral consultation in the stance it had. -/
theorem bind_keeps {stance : Stance} {ends : Except Failure β → Stance → Prop}
    {consultation : Consultation α} {next : α → Consultation β}
    (first : Neutrally derive holds consultation)
    (follows : ∀ value, holds value → (next value).Keeps (sendConduct derive) ends stance)
    (fails : ∀ failure, ends (.error failure) stance) :
    (consultation >>= next).Keeps (sendConduct derive) ends stance := by
  apply (first stance).bind
  · rintro value after ⟨rfl, held⟩
    exact follows value (held value rfl)
  · rintro failure after ⟨rfl, -⟩
    exact fails failure

/-- An attempt at neutral work is neutral. -/
theorem attempt {consultation : Consultation α} (first : Neutrally derive holds consultation) :
    Neutrally derive (fun _ => True)
      (consultation.attempt : Consultation (Except Failure α)) := by
  intro stance
  apply Dialogue.Keeps.attempt
  apply (first stance).mono
  rintro outcome after ⟨rfl, -⟩
  exact ⟨rfl, fun _ _ => trivial⟩

/-- Work is as neutral within a context. -/
theorem within {consultation : Consultation α} (context : Context)
    (first : Neutrally derive holds consultation) :
    Neutrally derive holds (Services.within context consultation) := by
  intro stance
  apply Dialogue.Keeps.mapError
  apply (first stance).mono
  rintro outcome after ⟨rfl, held⟩
  refine ⟨rfl, ?_⟩
  intro value same
  cases outcome with
  | ok other => exact held value same
  | error failure => cases same

end Neutrally

variable {derive : Address → Salt → Address}

/-- A resolved wallet has the address that the choice stands for. -/
theorem Resolver.neutrally_resolve (resolver : Resolver) (wallet : WalletChoice) :
    Neutrally derive (fun resolution => resolution.sender = wallet.sender derive resolver.owner)
      (resolver.resolve wallet) := by
  have deployed : ∀ address, Neutrally derive (fun _ => True) (isDeployed address) :=
    fun address => (Neutrally.asking_ofExcept (.codeAt address) trivial id).bind
      fun _ _ => .done trivial
  have inspected : Neutrally derive
      (fun resolution => resolution.sender = wallet.sender derive resolver.owner)
      (resolver.inspect wallet) := by
    cases wallet with
    | existing address =>
        exact (deployed address).bind fun _ _ => .done rfl
    | derived salt =>
        have address : Neutrally derive (· = derive resolver.owner salt)
            (resolver.counterfactualAddress salt) :=
          Neutrally.asking (.counterfactualAddress resolver.owner salt) trivial
            fun _ expected => .ofExcept expected
        apply address.bind
        rintro sender rfl
        apply (deployed _).bind
        intro hasCode _
        split
        · exact .done rfl
        · exact (Neutrally.asking_ofExcept (.createAccountCallData resolver.owner salt) trivial
            id).bind fun _ _ => .done rfl
  apply inspected.bind
  intro resolution same
  have prepared : Neutrally derive (fun _ => True) (resolver.prepare resolution) := by
    unfold Resolver.prepare
    split
    · exact .done trivial
    · split
      · exact .fail _
      · exact Neutrally.asking_ofExcept (.fund resolution.sender resolver.initialFunding) trivial id
  exact prepared.bind fun _ _ => .done same

/-- An operation that acts for a sender with a nonce. -/
def Operation.ActsFor (sender : Address) (nonce : Uint256) (operation : Operation) : Prop :=
  operation.sender = sender ∧ operation.nonce = nonce

variable {sender : Address} {nonce : Uint256}

/-- A warning is neutral. -/
theorem Services.neutrally_warn (warning : Warning) :
    Neutrally derive (fun _ => True) (Services.warn warning) :=
  Neutrally.asking (.warn warning) trivial fun _ _ => .done trivial

/-- An estimate is neutral. -/
theorem Services.neutrally_estimate (operation : Operation) (entryPoint : Address) :
    Neutrally derive (fun _ => True) (Services.estimate operation entryPoint) :=
  Neutrally.asking_ofExcept (.estimate operation entryPoint) trivial id

/-- Estimating leaves an operation with its sender and its nonce. -/
theorem Draft.neutrally_estimate (policy : GasPolicy) (entryPoint : Address)
    {draft : Draft .started} (acts : draft.operation.ActsFor sender nonce) :
    Neutrally derive (fun estimated => estimated.operation.ActsFor sender nonce)
      (draft.estimate policy entryPoint) := by
  have estimate : Neutrally derive (fun _ => True)
      (Estimation.estimate entryPoint draft.operation) :=
    (Services.neutrally_estimate _ entryPoint).within .gasEstimate
  have limits : Neutrally derive (fun _ => True)
      (Estimation.limits policy entryPoint draft.operation) :=
    estimate.bind fun _ _ => .ofExcept_any _
  have fees : Neutrally derive (fun _ => True) Estimation.fees :=
    ((Neutrally.asking_ofExcept .priorityFee trivial id).within .priorityFee).bind
      fun _ _ => (Neutrally.asking_ofExcept .gasPrice trivial id).bind
        fun _ _ => .ofExcept_any _
  have applied : Neutrally derive (fun result => result.operation.ActsFor sender nonce)
      (Estimation.apply policy entryPoint draft.operation) := by
    apply limits.attempt.bind
    intro gas _
    cases gas with
    | error failure => exact .done acts
    | ok gas =>
        apply fees.attempt.bind
        intro fees _
        cases fees with
        | error failure => exact .done acts
        | ok fees => exact .done acts
  apply applied.bind
  intro result kept
  apply Neutrally.ofExcept
  intro estimated same
  cases ended : result.outcome with
  | error failure =>
      rw [ended] at same
      cases same
  | ok _ =>
      rw [ended] at same
      rw [← Except.ok.inj same]
      exact kept

/-- An authorization leaves an operation with its sender and its nonce. -/
theorem Authorization.neutrally_authorize (validity now : UInt64) {operation : Operation}
    (acts : operation.ActsFor sender nonce) :
    Neutrally derive (fun authorized => authorized.1.ActsFor sender nonce)
      (Authorization.authorize validity now operation) := by
  unfold Authorization.authorize
  split
  · exact .fail _
  · rename_i paymaster _
    apply (Neutrally.ofExcept_any _).bind
    intro window _
    apply (Neutrally.ofExcept_any _).bind
    intro packed _
    apply (Neutrally.asking_ofExcept (.paymasterHash paymaster packed window) trivial id).bind
    intro hash _
    apply ((Neutrally.asking_ofExcept (.paymasterSign hash) trivial id).within
      .paymasterSigner).bind
    intro signature _
    exact .done ⟨acts.1, acts.2⟩

/-- Settling a draft is neutral, and leaves it its sender and its nonce. -/
theorem Pipeline.neutrally_settle (pipeline : Pipeline) (request : Request)
    {draft : Draft .estimated} (acts : draft.operation.ActsFor sender nonce) :
    Neutrally derive (fun settled => settled.operation.ActsFor sender nonce)
      (pipeline.settle request draft) := by
  unfold Pipeline.settle
  split
  · have clock : Neutrally derive (fun _ => True) Services.now := by
      apply Neutrally.asking .now trivial
      intro time _
      split
      · exact .fail _
      · exact .done trivial
    apply clock.bind
    intro now _
    have authorized : Neutrally derive (fun settled => settled.1.operation.ActsFor sender nonce)
        (draft.authorize pipeline.deployment.paymasterValidity now) :=
      (Authorization.neutrally_authorize _ now acts).bind fun _ kept => .done kept
    exact authorized.bind fun _ kept => .done kept
  · apply Neutrally.ofExcept
    intro settled same
    unfold Draft.withoutPaymaster at same
    split at same
    · cases same
    · rw [← Except.ok.inj same]
      exact acts

/-- Signing a draft is neutral, and leaves it its sender and its nonce. -/
theorem Draft.neutrally_sign {draft : Draft .settled}
    (acts : draft.operation.ActsFor sender nonce) :
    Neutrally derive (fun signed => signed.operation.ActsFor sender nonce) draft.sign := by
  unfold Draft.sign
  apply (Neutrally.ofExcept_any _).bind
  intro packed _
  apply (Neutrally.asking_ofExcept (.operationHash packed) trivial id).bind
  intro hash _
  apply ((Neutrally.asking_ofExcept (.ownerSign hash) trivial id).within .ownerSigner).bind
  intro signature _
  exact .done acts

/-- The last check is neutral. -/
theorem Pipeline.neutrally_crossCheck (pipeline : Pipeline) (signed : SignedOperation) :
    Neutrally derive (fun _ => True) (pipeline.crossCheck signed) := by
  unfold Pipeline.crossCheck
  apply (Neutrally.ofExcept_any _).bind
  intro packed _
  split
  · exact Services.neutrally_warn .localHash
  · exact .done trivial

/-- A draft acts for its wallet with the nonce that was read. -/
theorem Pipeline.actsFor_draft (pipeline : Pipeline) (request : Request) (wallet : Resolution)
    (nonce : Uint256) : (pipeline.draft request wallet nonce).operation.ActsFor wallet.sender nonce := by
  unfold Pipeline.draft
  split
  · exact ⟨rfl, rfl⟩
  · exact ⟨rfl, rfl⟩

/-- A run that knows a nonce sends with it, and has its answer then. -/
theorem Submission.keeps_submit (entryPoint : Address) {signed : SignedOperation}
    (acts : signed.operation.ActsFor sender nonce) :
    (submit entryPoint signed).Keeps (sendConduct derive)
      (fun _ after => after = .settled sender) (.informed sender nonce) := by
  obtain ⟨rfl, rfl⟩ := acts
  refine ⟨rfl, ?_⟩
  intro reply _
  have told : ∀ hash, Neutrally derive (fun _ => True) (do
      if hash ≠ signed.hash then Services.warn .bundlerHash
      return hash : Consultation Hash) := by
    intro hash
    split
    · exact (Services.neutrally_warn .bundlerHash).bind fun _ _ => .done trivial
    · exact .done trivial
  have rest : Neutrally derive (fun _ => True) (do
      let hash ← Dialogue.ofExcept reply
      if hash ≠ signed.hash then Services.warn .bundlerHash
      return hash : Consultation Hash) :=
    (Neutrally.ofExcept_any reply).bind fun hash _ => told hash
  exact (rest (.settled signed.operation.sender)).mono fun _ _ ended => ended.1

/-- **A run acts under its lock.** Between taking the lock of its sender and giving it back, a run
asks for the nonce of that sender once and sends for that sender at most once, with the nonce it was
told. -/
theorem Pipeline.keeps_sendLocked (pipeline : Pipeline) (request : Request) :
    (pipeline.sendLocked request).Keeps (sendConduct derive)
      (fun _ after => after.lock? = some (request.wallet.sender derive pipeline.owner))
      (.locked (request.wallet.sender derive pipeline.owner)) := by
  apply (pipeline.resolver.neutrally_resolve request.wallet).bind_keeps
  · intro wallet resolved
    have same : wallet.sender = request.wallet.sender derive pipeline.owner := resolved
    rw [← same]
    refine ⟨rfl, ?_⟩
    intro reply _
    cases reply with
    | error failure => exact rfl
    | ok nonce =>
        apply (Draft.neutrally_estimate _ _
          (pipeline.actsFor_draft request wallet nonce)).bind_keeps
        · intro estimated estimated_acts
          apply (pipeline.neutrally_settle request estimated_acts).bind_keeps
          · intro settled settled_acts
            apply (Draft.neutrally_sign settled_acts).bind_keeps
            · intro signed signed_acts
              apply (pipeline.neutrally_crossCheck signed).bind_keeps
              · intro _ _
                apply (Submission.keeps_submit _ signed_acts).mono
                rintro outcome after rfl
                rfl
              · exact fun _ => rfl
            · exact fun _ => rfl
          · exact fun _ => rfl
        · exact fun _ => rfl
  · exact fun _ => rfl

/-- Under a lock work is attempted between the question for the lock and its return. -/
theorem Services.holding_eq {α : Type} (sender : Address) (action : Consultation α) :
    Services.holding sender action =
      asking (.acquire sender) fun _ =>
        (action.attempt : Consultation (Except Failure α)) >>= fun outcome =>
          asking (.release sender) fun _ => .ofExcept outcome :=
  rfl

/-- What is done under a lock leaves the run with it, so the lock can be given back. -/
theorem Services.keeps_holding {α : Type} {action : Consultation α}
    (keeps : action.Keeps (sendConduct derive) (fun _ after => after.lock? = some sender)
      (.locked sender)) :
    (Services.holding sender action).Keeps (sendConduct derive) (fun _ after => after = .gone)
      .apart := by
  have attempted : (action.attempt : Consultation (Except Failure α)).Keeps (sendConduct derive)
      (fun outcome after => (∃ value, outcome = .ok value) ∧ after.lock? = some sender)
      (.locked sender) :=
    Dialogue.Keeps.attempt (keeps.mono fun outcome _ locked => ⟨⟨outcome, rfl⟩, locked⟩)
  rw [holding_eq]
  refine ⟨rfl, ?_⟩
  intro _ _
  apply attempted.bind
  · rintro outcome stance ⟨-, locked⟩
    refine ⟨locked, ?_⟩
    intro _ _
    apply Dialogue.Keeps.ofExcept
    cases stance <;> rfl
  · rintro failure stance ⟨⟨_, ended⟩, -⟩
    cases ended

/-- A run starts without a lock and ends without one. -/
theorem Pipeline.keeps_send (pipeline : Pipeline) (request : Request) :
    (pipeline.send request).Keeps (sendConduct derive)
      (fun _ after => after = .apart ∨ after = .gone) .apart := by
  have found : Neutrally derive (· = request.wallet.sender derive pipeline.owner)
      (pipeline.resolver.senderAddress request.wallet) := by
    cases request.wallet with
    | existing address => exact .done rfl
    | derived salt =>
        exact Neutrally.asking (.counterfactualAddress pipeline.owner salt) trivial
          fun _ expected => .ofExcept expected
  apply found.bind_keeps
  · rintro sender rfl
    apply (Services.keeps_holding (pipeline.keeps_sendLocked request)).mono
    exact fun _ _ gone => .inr gone
  · exact fun _ => .inl rfl

end AccountRelay
