import AccountRelay.Proofs.Dialogue.Histories
import AccountRelay.Proofs.LocalNet.Outages
import AccountRelay.Submission

/-! # Placing an operation on a net with outages

A consultation places an operation when it ends with a value only if the bundler of the net has taken
one operation, and no other (`LocalNet.Places`). What a net ensures before or after that is carried
along (`Ensures.places`, `Places.bind`), and so is what holds while a lock is held (`Places.holding`).
-/

namespace AccountRelay.LocalNet

variable {α β : Type} {net : LocalNet}

/-- A consultation that puts only steady questions is steady. -/
theorem Ensures.of_asks {consultation : Consultation α}
    (asks : consultation.Asks ServiceRequest.IsSteady) : Ensures net consultation fun _ => True := by
  induction consultation with
  | done value => exact done trivial
  | fail failure => exact fail failure
  | ask request next ih =>
      refine ⟨asks.1, ?_⟩
      intro reply _
      exact ih reply (asks.2 reply)

/-- A consultation that ends with a value only when the bundler has taken one operation, which
satisfies a condition with the value. Else only the log and the outages have changed. -/
def Places (net : LocalNet) (consultation : Consultation α) (placed : α → Operation → Prop) : Prop :=
  ∀ log outages value after, (net.disturbed log outages).consult consultation = (.ok value, after) →
    ∃ operation log' outages', placed value operation ∧
      after = (net.taking operation).disturbed log' outages'

variable {placed : α → Operation → Prop} {consultation : Consultation α}

/-- A consultation may ask steady questions before it places an operation. -/
theorem Ensures.places {holds : β → Prop} {first : Consultation β} {next : β → Consultation α}
    (ensures : Ensures net first holds) (follows : ∀ value, holds value → Places net (next value) placed) :
    Places net (first >>= next) placed := by
  intro log outages value after ends
  obtain ⟨found, middle, firstly, ends⟩ := Dialogue.run_bind_ok ends
  obtain ⟨held, log', outages', rfl⟩ := ensures.of_consult log outages firstly
  exact follows found (held found rfl) log' outages' value after ends

namespace Places

/-- What is known of a placed operation may be weakened. -/
theorem congr {placed' : α → Operation → Prop} (places : Places net consultation placed)
    (weaker : ∀ value operation, placed value operation → placed' value operation) :
    Places net consultation placed' := by
  intro log outages value after ends
  obtain ⟨operation, log', outages', own, same⟩ := places log outages value after ends
  exact ⟨operation, log', outages', weaker value operation own, same⟩

/-- Once an operation is placed, steady questions may follow. -/
theorem bind {placed' : β → Operation → Prop} {next : α → Consultation β}
    (places : Places net consultation placed)
    (follows : ∀ value operation, placed value operation →
      Ensures (net.taking operation) (next value) (placed' · operation)) :
    Places net (consultation >>= next) placed' := by
  intro log outages value after ends
  obtain ⟨found, middle, firstly, ends⟩ := Dialogue.run_bind_ok ends
  obtain ⟨operation, log', outages', own, rfl⟩ := places log outages found middle firstly
  obtain ⟨held, last⟩ := (follows found operation own).of_consult log' outages' ends
  obtain ⟨log', outages', same⟩ := last
  exact ⟨operation, log', outages', held value rfl, same⟩

/-- What is placed while a lock is held is placed. -/
theorem holding (places : Places net consultation placed) (sender : Address) :
    Places net (Services.holding sender consultation) placed := by
  have acquires : Ensures net (Services.asking (.acquire sender) fun _ => .done ()) fun _ => True :=
    .of_asks ⟨trivial, fun _ => trivial⟩
  apply acquires.places
  intro _ _ log outages value after ends
  obtain ⟨outcome, middle, attempted, released⟩ := Dialogue.run_bind_ok ends
  rw [Dialogue.run_attempt, Prod.mk.injEq] at attempted
  obtain ⟨attempted, rfl⟩ := attempted
  cases outcome with
  | error failure =>
      obtain ⟨_, _, -, failed⟩ := Dialogue.run_bind_ok released
      cases failed
  | ok found =>
      obtain ⟨operation, log', outages', own, same⟩ :=
        places log outages found _ (Prod.ext (Except.ok.inj attempted) rfl)
      have releases : Ensures (net.taking operation)
          (Services.asking (.release sender) fun _ => .done found) (placed · operation) :=
        .asking (.release sender) trivial (.done own) (by rintro _ _ ⟨⟩)
      have ends : ((net.taking operation).disturbed log' outages').consult
          (Services.asking (.release sender) fun _ => .done found) = (.ok value, after) := by
        rw [← same]
        exact released
      obtain ⟨held, log', outages', last⟩ := releases.of_consult log' outages' ends
      exact ⟨operation, log', outages', held value rfl, last⟩

end Places

/-! ## Handing over -/

/-- The log and the outages make no difference to what the bundler takes. -/
theorem take_disturbed (net : LocalNet) (log : Log) (outages : List Outage) (operation : Operation)
    (entryPoint : Address) : (net.disturbed log outages).take operation entryPoint =
      ((net.take operation entryPoint).1, (net.take operation entryPoint).2.disturbed log outages) := by
  have same : (net.disturbed log outages).rejectSend = net.rejectSend := rfl
  rw [take, take, same]
  cases net.rejectSend with
  | some message => rfl
  | none => rfl

/-- The bundler keeps an operation when it names it by a hash. -/
theorem take_eq_taking {operation : Operation} {entryPoint : Address} {hash : Hash}
    (takes : (net.take operation entryPoint).1 = .ok hash) :
    (net.take operation entryPoint).2 = net.taking operation := by
  unfold take at takes ⊢
  split at takes
  · cases takes
  · rfl

/-- A send either meets an outage or is taken as it would be on the undisturbed net. -/
theorem answer_send (net : LocalNet) (log : Log) (outages : List Outage) (operation : Operation)
    (entryPoint : Address) :
    (∃ failure, (answer (.send operation entryPoint) (net.disturbed log outages)).1 = .error failure) ∨
      ∃ log', answer (.send operation entryPoint) (net.disturbed log outages) =
        (net.disturbed log' outages).take operation entryPoint := by
  simp only [answer]
  cases struck (.send operation entryPoint)
      ((net.disturbed log outages).note (.send operation entryPoint)).outages with
  | some strike => exact .inl ⟨_, rfl⟩
  | none => exact .inr ⟨{ log with asked := .send operation entryPoint :: log.asked }, rfl⟩

/-- An operation that is sent is the one that is placed. -/
theorem places_send (operation : Operation) (entryPoint : Address) :
    net.Places (Services.send operation entryPoint) fun hash taken =>
      taken = operation ∧ (net.take operation entryPoint).1 = .ok hash := by
  intro log outages hash after ends
  rw [consult_send_eq_answer] at ends
  rcases net.answer_send log outages operation entryPoint with ⟨failure, refused⟩ | ⟨log', taken⟩
  · rw [ends] at refused
    cases refused
  · rw [taken, take_disturbed, Prod.mk.injEq] at ends
    obtain ⟨accepted, rfl⟩ := ends
    exact ⟨operation, log', outages, ⟨rfl, accepted⟩, by rw [take_eq_taking accepted]⟩

/-- A submission places the operation that was signed. -/
theorem places_submit (entryPoint : Address) (signed : SignedOperation) :
    net.Places (Submission.submit entryPoint signed) fun hash taken =>
      taken = signed.operation ∧ (net.take signed.operation entryPoint).1 = .ok hash := by
  apply (places_send signed.operation entryPoint).bind
  intro hash operation taken
  have warns (warning : Warning) : (Services.warn warning).Asks ServiceRequest.IsSteady :=
    ⟨trivial, fun _ => trivial⟩
  split
  · apply (Ensures.of_asks (warns .bundlerHash)).bind
    exact fun _ _ => .done taken
  · exact .done taken

end AccountRelay.LocalNet
