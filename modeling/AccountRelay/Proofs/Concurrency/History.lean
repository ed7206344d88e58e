import AccountRelay.Proofs.Concurrency.Stance

/-! # Histories of runs

What several runs do is one `History`, latest event first. It is legal when each run asks only what
its stance permits, and the lock of a sender is given only when no run has it
(`History.Legal`). In a legal history the lock of a sender has one owner (`Legal.eq_of_lock?_eq`),
and only the owner asks for the nonce of the sender or sends for it (`Legal.lock?_of_concerns`). So
nobody else does either as long as a run has the lock (`Legal.undisturbed`).
-/

namespace AccountRelay

/-- What one run does. -/
structure Event (Id : Type) where
  run : Id
  act : Act

/-- What runs have done, latest first. -/
abbrev History (Id : Type) := List (Event Id)

/-- Whether an act reads the nonce of a sender or sends for it. -/
def Act.Concerns (sender : Address) : Act → Prop
  | .asked (.nonce other) | .answered (.nonce other) _ => other = sender
  | .asked (.send operation _) | .answered (.send operation _) _ => operation.sender = sender
  | _ => False

namespace Stance

/-- A run gets a lock by the answer to an acquire only. -/
theorem lock?_next {stance : Stance} {act : Act} {sender : Address}
    (locked : (stance.next act).lock? = some sender) :
    stance.lock? = some sender ∨ ∃ reply, act = .answered (.acquire sender) reply := by
  unfold next at locked
  split at locked
  · obtain rfl := Option.some.inj locked
    exact .inr ⟨_, rfl⟩
  · cases locked
  · exact .inl locked
  · exact .inl locked
  · exact .inl locked

/-- A run that has a lock gives it back or keeps it. -/
theorem next_eq_gone_or_lock?_eq {stance : Stance} {act : Act} {sender : Address}
    (locked : stance.lock? = some sender)
    (later : ∀ other reply, act ≠ .answered (.acquire other) reply) :
    stance.next act = .gone ∨ (stance.next act).lock? = some sender := by
  unfold next
  split
  · exact absurd rfl (later _ _)
  · exact .inl rfl
  · exact .inr locked
  · exact .inr locked
  · exact .inr locked

/-- A run that has given its lock back does not get another one without asking for it. -/
theorem ne_gone_of_next {stance : Stance} {act : Act}
    (later : ∀ other reply, act ≠ .answered (.acquire other) reply)
    (active : stance.next act ≠ .gone) : stance ≠ .gone := by
  rintro rfl
  apply active
  unfold next
  split
  · exact absurd rfl (later _ _)
  · rfl
  · contradiction
  · contradiction
  · rfl

/-- A run gives its lock back by the question for that only. -/
theorem next_ne_gone {stance : Stance} {act : Act} (active : stance ≠ .gone)
    (kept : ∀ sender, act ≠ .asked (.release sender)) : stance.next act ≠ .gone := by
  unfold next
  split
  · exact Stance.noConfusion
  · exact absurd rfl (kept _)
  · exact Stance.noConfusion
  · exact Stance.noConfusion
  · exact active

/-- A run that knows a nonce has known it before, or has just been told it. -/
theorem eq_informed_of_next {stance : Stance} {act : Act} {sender : Address} {nonce : Uint256}
    (informed : stance.next act = .informed sender nonce) :
    (stance = .informed sender nonce ∧ ∀ operation entryPoint reply,
      act ≠ .answered (.send operation entryPoint) reply) ∨
    (stance = .locked sender ∧
      ∃ other, act = .answered (.nonce other) (.ok nonce : Except Failure Uint256)) := by
  unfold next at informed
  split at informed
  · cases informed
  · cases informed
  · cases informed
    exact .inr ⟨rfl, _, rfl⟩
  · cases informed
  · subst informed
    rename_i unanswered
    refine .inl ⟨rfl, ?_⟩
    rintro operation entryPoint reply rfl
    exact unanswered _ _ _ _ _ rfl rfl

/-- A question other than for giving back does not change a stance. -/
theorem next_asked {request : ServiceRequest} (kept : ∀ sender, request ≠ .release sender)
    (stance : Stance) : stance.next (.asked request) = stance := by
  cases request with
  | release sender => exact absurd rfl (kept sender)
  | _ => cases stance <;> rfl

end Stance

namespace History

variable {Id : Type} [DecidableEq Id]

/-- The stance of a run after a history. -/
def stance : History Id → Id → Stance
  | [], _ => .apart
  | event :: history, run =>
    if event.run = run then (stance history run).next event.act else stance history run

/-- The question that a run waits to have answered. -/
def pending : History Id → Id → Option ServiceRequest
  | [], _ => none
  | event :: history, run =>
    if event.run = run then
      match event.act with
      | .asked request => some request
      | .answered _ _ => none
    else pending history run

/-- An act moves on the stance of the run that does it. -/
@[simp] theorem stance_cons_self (run : Id) (act : Act) (history : History Id) :
    stance (⟨run, act⟩ :: history) run = (history.stance run).next act :=
  if_pos rfl

/-- An act leaves the stances of the other runs. -/
theorem stance_cons_of_ne {event : Event Id} {run : Id} (other : event.run ≠ run)
    (history : History Id) : stance (event :: history) run = history.stance run :=
  if_neg other

/-- A run that has just asked waits for the answer to that question. -/
@[simp] theorem pending_cons_asked (run : Id) (request : ServiceRequest) (history : History Id) :
    pending (⟨run, .asked request⟩ :: history) run = some request :=
  if_pos rfl

/-- A run that has just been answered waits for nothing. -/
@[simp] theorem pending_cons_answered (run : Id) (request : ServiceRequest)
    (reply : request.Answer) (history : History Id) :
    pending (⟨run, .answered request reply⟩ :: history) run = none :=
  if_pos rfl

/-- An act leaves what the other runs wait for. -/
theorem pending_cons_of_ne {event : Event Id} {run : Id} (other : event.run ≠ run)
    (history : History Id) : pending (event :: history) run = history.pending run :=
  if_neg other

/-- A history in which runs ask what their stances permit, answers follow questions, and the lock of
a sender is given only when no run has it. -/
def Legal : History Id → Prop
  | [] => True
  | ⟨run, .asked request⟩ :: history => Legal history ∧ (stance history run).Permits request
  | ⟨run, .answered request _⟩ :: history =>
    Legal history ∧ pending history run = some request ∧
      ∀ sender, request = .acquire sender → ∀ other, (stance history other).lock? ≠ some sender

namespace Legal

/-- A legal history is legal without its last event. -/
theorem tail {event : Event Id} {history : History Id} (legal : Legal (event :: history)) :
    Legal history := by
  obtain ⟨run, act⟩ := event
  cases act with
  | asked request => exact legal.1
  | answered request reply => exact legal.1

/-- A legal history has legal beginnings only. -/
theorem of_append {later history : History Id} (legal : Legal (later ++ history)) :
    Legal history := by
  induction later with
  | nil => exact legal
  | cons event later ih => exact ih legal.tail

/-- A run waits for an answer in a stance that permits the question, but for the question by which
it gives its lock back. -/
theorem permits_of_pending {history : History Id} (legal : Legal history) {run : Id}
    {request : ServiceRequest} (waits : history.pending run = some request)
    (kept : ∀ sender, request ≠ .release sender) : (history.stance run).Permits request := by
  induction history with
  | nil => cases waits
  | cons event history ih =>
      by_cases own : event.run = run
      · obtain ⟨_, act⟩ := event
        subst own
        cases act with
        | asked asked =>
            rw [pending_cons_asked] at waits
            obtain rfl := Option.some.inj waits
            rw [stance_cons_self, Stance.next_asked kept]
            exact legal.2
        | answered asked reply =>
            rw [pending_cons_answered] at waits
            cases waits
      · rw [pending_cons_of_ne own] at waits
        rw [stance_cons_of_ne own]
        exact ih legal.tail waits

/-- A run to which a lock is given has none yet. -/
theorem stance_of_answered_acquire {history : History Id} {run : Id} {sender : Address}
    {reply : (ServiceRequest.acquire sender).Answer}
    (legal : Legal (⟨run, .answered (.acquire sender) reply⟩ :: history)) :
    history.stance run = .apart :=
  legal.tail.permits_of_pending legal.2.1 fun _ => ServiceRequest.noConfusion

/-- The lock of a sender has one owner. -/
theorem eq_of_lock?_eq {history : History Id} (legal : Legal history) {first second : Id}
    {sender : Address} (left : (history.stance first).lock? = some sender)
    (right : (history.stance second).lock? = some sender) : first = second := by
  induction history generalizing first second with
  | nil => cases left
  | cons event history ih =>
      -- Who acts had the lock before, or nobody had it.
      have acting : ∀ {owner other : Id}, event.run = owner →
          (stance (event :: history) owner).lock? = some sender →
          (stance history other).lock? = some sender → owner = other := by
        rintro owner other rfl mine theirs
        obtain ⟨run, act⟩ := event
        rw [stance_cons_self] at mine
        rcases Stance.lock?_next mine with before | ⟨reply, rfl⟩
        · exact ih legal.tail before theirs
        · exact absurd theirs (legal.2.2 sender rfl other)
      by_cases first_acts : event.run = first
      · by_cases second_acts : event.run = second
        · rw [← first_acts, second_acts]
        · rw [stance_cons_of_ne second_acts] at right
          exact acting first_acts left right
      · rw [stance_cons_of_ne first_acts] at left
        by_cases second_acts : event.run = second
        · exact (acting second_acts right left).symm
        · rw [stance_cons_of_ne second_acts] at right
          exact ih legal.tail left right

/-- Only the owner of a sender's lock reads the nonce of the sender or sends for it. -/
theorem lock?_of_concerns {event : Event Id} {history : History Id}
    (legal : Legal (event :: history)) {sender : Address} (concerns : event.act.Concerns sender) :
    (history.stance event.run).lock? = some sender := by
  obtain ⟨run, act⟩ := event
  have permitted : ∀ request : ServiceRequest,
      (history.stance run).Permits request → (Act.asked request).Concerns sender →
      (history.stance run).lock? = some sender := by
    intro request permits concerns
    cases request with
    | nonce other =>
        obtain rfl : other = sender := concerns
        rw [show history.stance run = .locked other from permits]
        rfl
    | send operation entryPoint =>
        obtain rfl : operation.sender = sender := concerns
        rw [show history.stance run = .informed _ _ from permits]
        rfl
    | _ => exact concerns.elim
  cases act with
  | asked request => exact permitted request legal.2 concerns
  | answered request reply =>
      have kept : ∀ other, request ≠ .release other := by
        rintro other rfl
        exact concerns
      apply permitted request (legal.tail.permits_of_pending legal.2.1 kept)
      cases request <;> exact concerns

/-- **An owner is undisturbed.** As long as a run has the lock of a sender, no other run reads the
nonce of the sender or sends for it. -/
theorem undisturbed {during before : History Id} (legal : Legal (during ++ before)) {run : Id}
    {sender : Address} (locked : (stance before run).lock? = some sender)
    (active : stance (during ++ before) run ≠ .gone) :
    (stance (during ++ before) run).lock? = some sender ∧
      ∀ event ∈ during, event.run ≠ run → ¬ event.act.Concerns sender := by
  induction during with
  | nil => exact ⟨locked, fun _ member => absurd member List.not_mem_nil⟩
  | cons event during ih =>
      rw [List.cons_append] at legal active ⊢
      by_cases own : event.run = run
      · obtain ⟨_, act⟩ := event
        subst own
        -- Who has its lock already is not answered an acquire once more.
        have later : ∀ other reply, act ≠ .answered (.acquire other) reply := by
          rintro other reply rfl
          have apart := legal.stance_of_answered_acquire
          have still := (ih legal.tail (by rw [apart]; exact Stance.noConfusion)).1
          rw [apart] at still
          cases still
        rw [stance_cons_self] at active ⊢
        obtain ⟨still, quiet⟩ := ih legal.tail (Stance.ne_gone_of_next later active)
        refine ⟨(Stance.next_eq_gone_or_lock?_eq still later).resolve_left active, ?_⟩
        intro event member other
        rcases List.mem_cons.mp member with rfl | earlier
        · exact absurd rfl other
        · exact quiet event earlier other
      · rw [stance_cons_of_ne own] at active ⊢
        obtain ⟨still, quiet⟩ := ih legal.tail active
        refine ⟨still, ?_⟩
        intro event member other
        rcases List.mem_cons.mp member with rfl | earlier
        · intro concerns
          exact other (legal.tail.eq_of_lock?_eq (legal.lock?_of_concerns concerns) still)
        · exact quiet event earlier other

/-- A run that reads the nonce of a sender has the lock of the sender. -/
theorem lock?_of_asked_nonce {history : History Id} {run : Id} {sender : Address}
    (legal : Legal (⟨run, .asked (.nonce sender)⟩ :: history)) :
    (stance (⟨run, .asked (.nonce sender)⟩ :: history) run).lock? = some sender := by
  rw [stance_cons_self, Stance.next_asked fun _ => ServiceRequest.noConfusion]
  rw [show history.stance run = .locked sender from legal.2]
  rfl

/-- Between a run's reading of a nonce and the answer to what it sends, no other run reads the nonce
of the sender or sends for it. -/
theorem undisturbed_until_sent {during before : History Id} {run : Id} {sender : Address}
    {operation : Operation} {entryPoint : Address}
    {reply : (ServiceRequest.send operation entryPoint).Answer}
    (legal : Legal (⟨run, .answered (.send operation entryPoint) reply⟩ ::
      (during ++ ⟨run, .asked (.nonce sender)⟩ :: before))) :
    operation.sender = sender ∧
      ∀ event ∈ during, event.run ≠ run → ¬ event.act.Concerns sender := by
  have informed : stance (during ++ ⟨run, .asked (.nonce sender)⟩ :: before) run =
      .informed operation.sender operation.nonce :=
    legal.tail.permits_of_pending legal.2.1 fun _ => ServiceRequest.noConfusion
  obtain ⟨still, quiet⟩ := legal.tail.undisturbed legal.tail.of_append.lock?_of_asked_nonce
    (by rw [informed]; exact Stance.noConfusion)
  rw [informed] at still
  exact ⟨Option.some.inj still, quiet⟩

/-- As long as a run that has read a nonce does not give its lock back, no other run reads the nonce
of the sender or sends for it. -/
theorem undisturbed_until_released {during before : History Id} {run : Id} {sender : Address}
    (legal : Legal (during ++ ⟨run, .asked (.nonce sender)⟩ :: before))
    (kept : ∀ event ∈ during, event.run = run →
      ∀ other, event.act ≠ .asked (.release other)) :
    ∀ event ∈ during, event.run ≠ run → ¬ event.act.Concerns sender := by
  have locked := legal.of_append.lock?_of_asked_nonce
  have active : stance (during ++ ⟨run, .asked (.nonce sender)⟩ :: before) run ≠ .gone := by
    induction during with
    | nil =>
        intro gone
        rw [List.nil_append] at gone
        rw [gone] at locked
        cases locked
    | cons event during ih =>
        have before_gone := ih legal.tail fun event member =>
          kept event (List.mem_cons_of_mem _ member)
        rw [List.cons_append]
        by_cases own : event.run = run
        · obtain ⟨_, act⟩ := event
          subst own
          rw [stance_cons_self]
          exact Stance.next_ne_gone before_gone (kept _ List.mem_cons_self rfl)
        · rw [stance_cons_of_ne own]
          exact before_gone
  exact (legal.undisturbed locked active).2

end Legal

end History

end AccountRelay
