import AccountRelay.Proofs.Dialogue.Conduct
import AccountRelay.Proofs.LocalNet.Consultation
import AccountRelay.Proofs.Outcome

/-! # Consulting a net with outages

An outage makes a question fail and changes nothing else, so a net answers a steady question from
its settings or not at all (`LocalNet.expects_answer`). What a net ensures of a consultation is true
of the value whenever the consultation ends with one, whatever the outages (`LocalNet.Ensures`).
-/

namespace AccountRelay.LocalNet

variable {α β : Type} {net : LocalNet}

/-- What is to be expected of an answer: it is the one of the net's settings, or a failure. -/
def Expects (net : LocalNet) (request : ServiceRequest) (reply : request.Answer) : Prop :=
  reply = (net.respond request).1 ∨ ∃ failure, refusal? failure request = some reply

/-- The conduct of a consultation of steady questions. -/
def steadyConduct (net : LocalNet) : Conduct Services Unit where
  permits _ := ServiceRequest.IsSteady
  expects := net.Expects
  next _ _ _ := ()

/-- A consultation of steady questions whose value satisfies a condition, if there is a value. -/
def Ensures (net : LocalNet) (consultation : Consultation α) (holds : α → Prop) : Prop :=
  consultation.Keeps net.steadyConduct (fun outcome _ => ∀ value, outcome = .ok value → holds value)
    ()

namespace Ensures

variable {holds : α → Prop} {consultation : Consultation α}

/-- What is done has its value. -/
theorem done {value : α} (held : holds value) : Ensures net (.done value) holds := by
  intro other same
  rw [← Except.ok.inj same]
  exact held

/-- What fails has no value. -/
theorem fail (failure : Failure) : Ensures net (.fail failure) holds := nofun

/-- An outcome has the value that it is. -/
theorem ofExcept (outcome : Except Failure α) :
    Ensures net (.ofExcept outcome) (outcome = .ok ·) := by
  cases outcome with
  | ok value => exact done rfl
  | error failure => exact fail failure

/-- What is ensured ensures anything weaker. -/
theorem congr {holds' : α → Prop} (ensures : Ensures net consultation holds)
    (weaker : ∀ value, holds value → holds' value) : Ensures net consultation holds' :=
  Dialogue.Keeps.mono ensures fun _ _ ends value same => weaker value (ends value same)

/-- A steady question ensures what follows it, answered or refused. -/
theorem asking (request : ServiceRequest) (steady : request.IsSteady)
    {next : request.Answer → Consultation α}
    (answered : Ensures net (next (net.respond request).1) holds)
    (refused : ∀ failure reply, refusal? failure request = some reply →
      Ensures net (next reply) holds) :
    Ensures net (Services.asking request next) holds := by
  refine ⟨steady, ?_⟩
  rintro reply (rfl | ⟨failure, refuses⟩)
  · exact answered
  · exact refused failure reply refuses

/-- A question that ends with its answer, of which there is one at most. -/
theorem asking_ofExcept (request : ServiceRequest) (steady : request.IsSteady)
    (outcome : request.Answer → Except Failure α) {value : α}
    (answered : ∀ other, outcome (net.respond request).1 = .ok other → value = other)
    (refused : ∀ failure reply, refusal? failure request = some reply →
      ∀ other, outcome reply ≠ .ok other) :
    Ensures net (Services.asking request fun reply => .ofExcept (outcome reply)) (value = ·) := by
  apply asking request steady
  · exact (ofExcept _).congr answered
  · intro failure reply refuses
    exact (ofExcept _).congr fun other same => absurd same (refused failure reply refuses other)

/-- A value that was ensured may be used in what follows. -/
theorem bind {holds' : β → Prop} {next : α → Consultation β}
    (first : Ensures net consultation holds)
    (follows : ∀ value, holds value → Ensures net (next value) holds') :
    Ensures net (consultation >>= next) holds' :=
  Dialogue.Keeps.bind first (fun value _ ends => follows value (ends value rfl))
    fun _ _ _ _ same => by cases same

/-- The value of an attempt is ensured if there is one. -/
theorem attempt (ensures : Ensures net consultation holds) :
    Ensures net (consultation.attempt : Consultation (Except Failure α))
      fun outcome => ∀ value, outcome = .ok value → holds value := by
  apply Dialogue.Keeps.attempt
  apply Dialogue.Keeps.mono ensures
  intro outcome _ ends attempted same
  rw [← Except.ok.inj same]
  exact ends

/-- A context is no matter for what is ensured. -/
theorem within (ensures : Ensures net consultation holds) (context : Context) :
    Ensures net (Services.within context consultation) holds := by
  apply Dialogue.Keeps.mapError
  apply Dialogue.Keeps.mono ensures
  intro outcome _ ends value same
  exact ends value (Outcome.mapError_eq_ok_iff.mp same)

end Ensures

/-! ## Questions -/

/-- An estimate that comes is the one of the settings. -/
theorem ensures_estimate (operation : Operation) (entryPoint : Address) :
    net.Ensures (Services.estimate operation entryPoint) (net.estimate = ·) := by
  apply Ensures.asking_ofExcept (.estimate operation entryPoint) trivial id
  · intro gas
    simp only [respond, id]
    cases net.failEstimate with
    | true => rintro ⟨⟩
    | false => exact Except.ok.inj
  · rintro failure _ ⟨⟩ gas ⟨⟩

/-- A gas price that comes is the one of the settings. -/
theorem ensures_gasPrice : net.Ensures Services.gasPrice (net.gasPrice = ·) :=
  .asking_ofExcept .gasPrice trivial id (fun _ => Except.ok.inj) (by rintro _ _ ⟨⟩; exact nofun)

/-- A tip that comes is the one of the settings. -/
theorem ensures_priorityFee : net.Ensures Services.priorityFee (net.priorityFee = ·) :=
  .asking_ofExcept .priorityFee trivial id (fun _ => Except.ok.inj) (by rintro _ _ ⟨⟩; exact nofun)

/-- The hash of an operation that comes is its own on the net's chain. -/
theorem ensures_operationHash (operation : PackedOperation) :
    net.Ensures (Services.operationHash operation) (operation.hash entryPoint localChain = ·) :=
  .asking_ofExcept (.operationHash operation) trivial id (fun _ => Except.ok.inj)
    (by rintro _ _ ⟨⟩; exact nofun)

/-- The hash for a paymaster that comes is that of the operation, without the paymaster's data, and of
the window. -/
theorem ensures_paymasterHash (paymaster : Address) (operation : PackedOperation)
    (window : ValidityWindow) :
    net.Ensures (Services.paymasterHash paymaster operation window)
      (sponsoredHash paymaster operation window = ·) :=
  .asking_ofExcept (.paymasterHash paymaster operation window) trivial id (fun _ => Except.ok.inj)
    (by rintro _ _ ⟨⟩; exact nofun)

/-- A signature of the owner that comes is made with the owner's key. -/
theorem ensures_ownerSign (hash : Hash) :
    net.Ensures (Services.ownerSign hash) (net.ownerKey.signHash hash = ·) :=
  .asking_ofExcept (.ownerSign hash) trivial id (fun _ => Except.ok.inj)
    (by rintro _ _ ⟨⟩; exact nofun)

/-- A signature of the paymaster that comes is made with the paymaster's key. -/
theorem ensures_paymasterSign (hash : Hash) :
    net.Ensures (Services.paymasterSign hash) (net.paymasterKey.signHash hash = ·) :=
  .asking_ofExcept (.paymasterSign hash) trivial id (fun _ => Except.ok.inj)
    (by rintro _ _ ⟨⟩; exact nofun)

/-! ## Answers -/

/-- A net with another log and other outages. -/
def disturbed (net : LocalNet) (log : Log) (outages : List Outage) : LocalNet :=
  { net.logged log with outages }

/-- The settings of a net answer a steady question the same way whatever the outages. -/
theorem respond_outages (request : ServiceRequest) (net : LocalNet) (outages : List Outage)
    (steady : request.IsSteady) :
    (({ net with outages } : LocalNet).respond request).1 = (net.respond request).1 := by
  cases request with
  | codeAt account =>
      simp only [respond]
      cases net.failCode with
      | _ => rfl
  | tokenBalance token holder =>
      simp only [respond]
      cases net.tokenBalances.lookup (token, holder) with
      | _ => rfl
  | send _ _ | receipt _ => exact steady.elim
  | _ => rfl

/-- A net answers a steady question as expected, whatever its outages, and keeps its settings. -/
theorem expects_answer {request : ServiceRequest} (steady : request.IsSteady) (net : LocalNet)
    (log : Log) (outages : List Outage) :
    net.Expects request (answer request (net.disturbed log outages)).1 ∧
      ∃ log' outages',
        (answer request (net.disturbed log outages)).2 = net.disturbed log' outages' := by
  obtain ⟨noted, note_eq⟩ := note_logged steady { net with outages } log
  obtain ⟨heard, respond_eq⟩ := respond_logged steady { net with outages } noted
  change (net.disturbed log outages).note request = net.disturbed noted outages at note_eq
  change (net.disturbed noted outages).respond request = _ at respond_eq
  have responded : net.Expects request ((net.disturbed noted outages).respond request).1 ∧
      ∃ log' outages',
        ((net.disturbed noted outages).respond request).2 = net.disturbed log' outages' := by
    rw [respond_eq]
    exact ⟨.inl (respond_outages request net outages steady), heard, outages, rfl⟩
  simp only [answer]
  rw [note_eq]
  cases struck request (net.disturbed noted outages).outages with
  | none => exact responded
  | some strike =>
      obtain ⟨message, remaining⟩ := strike
      cases refuses : refusal? (.reported message) request with
      | none =>
          simp only [refuses]
          exact responded
      | some refusal =>
          simp only [refuses]
          exact ⟨.inr ⟨_, refuses⟩, noted, remaining, rfl⟩

/-- What a net ensures of a consultation is true of its value, whatever the outages, and the net keeps
its settings. -/
theorem Ensures.of_consult {holds : α → Prop} {consultation : Consultation α}
    (ensures : Ensures net consultation holds) (log : Log) (outages : List Outage)
    {outcome : Except Failure α} {after : LocalNet}
    (ends : (net.disturbed log outages).consult consultation = (outcome, after)) :
    (∀ value, outcome = .ok value → holds value) ∧
      ∃ log' outages', after = net.disturbed log' outages' := by
  -- An answer leaves the net with another log and other outages, so the induction is for all of them.
  induction consultation generalizing log outages with
  | done result =>
      cases ends
      exact ⟨ensures, log, outages, rfl⟩
  | fail failure =>
      cases ends
      exact ⟨nofun, log, outages, rfl⟩
  | ask request next ih =>
      obtain ⟨steady, follows⟩ := ensures
      obtain ⟨expected, log', outages', same⟩ := expects_answer steady net log outages
      change (answer request (net.disturbed log outages)).2.consult
        (next (answer request (net.disturbed log outages)).1) = _ at ends
      rw [same] at ends
      exact ih _ (follows _ expected) log' outages' ends

/-- A value that a consultation ends with is as ensured, whatever the outages and the log. -/
theorem Ensures.holds_of_consult {holds : α → Prop} {consultation : Consultation α}
    (ensures : Ensures net consultation holds) (log : Log) (outages : List Outage) {value : α}
    {after : LocalNet}
    (ends : (net.disturbed log outages).consult consultation = (.ok value, after)) :
    holds value :=
  (ensures.of_consult log outages ends).1 value rfl

end AccountRelay.LocalNet
