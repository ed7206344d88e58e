import AccountRelay.Proofs.Concurrency.Worlds
import AccountRelay.Proofs.SenderLocks.Standing
import Mathlib.Logic.Function.Basic

/-! # Runs beside each other

Any number of runs of `Pipeline.send` share the locks and the world. In each step one run puts a
question or has it answered, so steps of others come between any two acts of a run
(`Runs.step`). A question for a lock starts an acquire, and is answered when a later look finds the
lock held; giving a lock back takes its two halves in two steps. All other answers are those of a
`World`.

The state of the runs stays sound (`Sound.step`): the locks are coherent, the history is legal, and
each run stands in the locks as its stance says. So in any schedule the operations that are accepted for
a sender have growing nonces, in a world that counts (`accepted_pairwise_scheduled`).
-/

namespace AccountRelay

variable {Id : Type} [DecidableEq Id]

/-- Where a run is in its consultation. -/
inductive Position
  | ready (rest : Consultation Hash)
  | waiting (request : ServiceRequest) (next : request.Answer → Consultation Hash)

/-- Runs that share locks, and what they have done. -/
structure Runs (Id : Type) where
  locks : SenderLocks Id
  position : Id → Position
  history : History Id

namespace Runs

/-- The locks after a run has put a question. -/
def onQuestion (locks : SenderLocks Id) (run : Id) : ServiceRequest → SenderLocks Id
  | .acquire sender => locks.next (.acquire run sender)
  | .release _ => locks.next (.release run)
  | _ => locks

/-- The locks after a run has looked for the answer to a question. -/
def onLook (locks : SenderLocks Id) (run : Id) : ServiceRequest → SenderLocks Id
  | .acquire _ => locks.next (.poll run)
  | .release sender => locks.next (.tidy sender)
  | _ => locks

/-- Whether the answer to a question is there. -/
def isAnswered (locks : SenderLocks Id) (run : Id) : ServiceRequest → Bool
  | .acquire sender => locks.standing run = some (sender, true)
  | _ => true

/-- A step of one run: it puts its next question, or looks for the answer to its last one. -/
def step (world : World Id) (runs : Runs Id) (run : Id) : Runs Id :=
  match runs.position run with
  | .ready (.ask request next) =>
    { locks := onQuestion runs.locks run request
      position := Function.update runs.position run (.waiting request next)
      history := ⟨run, .asked request⟩ :: runs.history }
  | .ready _ => runs
  | .waiting request next =>
    let locks := onLook runs.locks run request
    if isAnswered locks run request then
      let reply := world runs.history run request
      { locks
        position := Function.update runs.position run (.ready (next reply))
        history := ⟨run, .answered request reply⟩ :: runs.history }
    else { runs with locks }

/-- Runs of a pipeline that have not done anything yet. -/
def start (pipeline : Pipeline) (requests : Id → Request) : Runs Id where
  locks := {}
  position run := .ready (pipeline.send (requests run))
  history := []

/-- The runs of a pipeline after the steps of a schedule. -/
def scheduled (world : World Id) (pipeline : Pipeline) (requests : Id → Request)
    (schedule : List Id) : Runs Id :=
  schedule.foldl (step world) (start pipeline requests)

/-- A question keeps the locks coherent. -/
theorem coherent_onQuestion {locks : SenderLocks Id} (coherent : locks.Coherent) (run : Id)
    (request : ServiceRequest) : (onQuestion locks run request).Coherent := by
  cases request with
  | acquire sender => exact coherent.next (.acquire run sender)
  | release sender => exact coherent.next (.release run)
  | _ => exact coherent

/-- Looking for an answer keeps the locks coherent. -/
theorem coherent_onLook {locks : SenderLocks Id} (coherent : locks.Coherent) (run : Id)
    (request : ServiceRequest) : (onLook locks run request).Coherent := by
  cases request with
  | acquire sender => exact coherent.next (.poll run)
  | release sender => exact coherent.next (.tidy sender)
  | _ => exact coherent

/-- A run's question changes nothing in how the others stand. -/
theorem standing_onQuestion_of_ne (locks : SenderLocks Id) {run other : Id} (apart : run ≠ other)
    (request : ServiceRequest) :
    (onQuestion locks run request).standing other = locks.standing other := by
  cases request with
  | acquire sender => exact locks.standing_next_of_ne fun same => apart (Option.some.inj same)
  | release sender => exact locks.standing_next_of_ne fun same => apart (Option.some.inj same)
  | _ => rfl

/-- A run that looks for its answer changes nothing in how the others stand. -/
theorem standing_onLook_of_ne (locks : SenderLocks Id) {run other : Id} (apart : run ≠ other)
    (request : ServiceRequest) :
    (onLook locks run request).standing other = locks.standing other := by
  cases request with
  | acquire sender => exact locks.standing_next_of_ne fun same => apart (Option.some.inj same)
  | release sender => exact locks.standing_tidy sender other
  | _ => rfl

end Runs

/-- How a run ends: without a lock. -/
def Ends (_ : Except Failure Hash) (stance : Stance) : Prop :=
  stance = .apart ∨ stance = .gone

/-- Where a run with a stance stands in the locks. -/
def Stance.standing (stance : Stance) : Option (Address × Bool) :=
  stance.lock?.map (·, true)

/-- A position that agrees with what a run has done and with where it stands in the locks. -/
def Position.Fits (derive : Address → Salt → Address) (history : History Id)
    (locks : SenderLocks Id) (run : Id) : Position → Prop
  | .ready rest =>
    rest.Keeps (sendConduct derive) Ends (history.stance run) ∧
      locks.standing run = (history.stance run).standing
  | .waiting request next =>
    history.pending run = some request ∧
      (∀ reply, DerivesAs derive request reply → (next reply).Keeps (sendConduct derive) Ends
        ((history.stance run).next (.answered request reply))) ∧
      match request with
      | .acquire sender => ∃ held, locks.standing run = some (sender, held)
      | _ => locks.standing run = (history.stance run).standing

/-- Runs with coherent locks and a legal history, in which each run stands as its stance says. -/
structure Runs.Sound (derive : Address → Salt → Address) (runs : Runs Id) : Prop where
  coherent : runs.locks.Coherent
  legal : runs.history.Legal
  fits : ∀ run, (runs.position run).Fits derive runs.history runs.locks run

variable {derive : Address → Salt → Address}

/-- A position goes on to agree when others act. -/
theorem Position.Fits.frame {history later : History Id} {locks after : SenderLocks Id} {run : Id}
    {position : Position} (fits : position.Fits derive history locks run)
    (stance : later.stance run = history.stance run)
    (pending : later.pending run = history.pending run)
    (standing : after.standing run = locks.standing run) :
    position.Fits derive later after run := by
  cases position with
  | ready rest =>
      unfold Fits
      rw [stance, standing]
      exact fits
  | waiting request next =>
      unfold Fits
      rw [stance, pending, standing]
      exact fits

/-- An answer other than to an acquire does not change which lock a run has. -/
theorem Stance.standing_next_answered {request : ServiceRequest}
    (other : ∀ sender, request ≠ .acquire sender) (reply : request.Answer) (stance : Stance) :
    (stance.next (.answered request reply)).standing = stance.standing := by
  unfold next
  split
  · rename_i same
    cases same
    exact absurd rfl (other _)
  · contradiction
  · rfl
  · rfl
  · rfl

/-- A run that asks to release its sender is gone from the locks. -/
theorem Stance.next_asked_release (stance : Stance) (sender : Address) :
    stance.next (.asked (.release sender)) = .gone := by
  cases stance <;> rfl

/-- A run that has put a question fits when it did so while it was ready. -/
theorem Position.Fits.question {runs : Runs Id} {run : Id} {request : ServiceRequest}
    {next : request.Answer → Consultation Hash}
    (fits : (Position.ready (.ask request next)).Fits derive runs.history runs.locks run) :
    (Position.waiting request next).Fits derive (⟨run, .asked request⟩ :: runs.history)
      (Runs.onQuestion runs.locks run request) run := by
  obtain ⟨⟨permits, follows⟩, stands⟩ := fits
  refine ⟨History.pending_cons_asked run request runs.history, ?_, ?_⟩
  · rw [History.stance_cons_self]
    exact follows
  · rw [History.stance_cons_self]
    cases request with
    | acquire sender =>
        rw [show runs.history.stance run = .apart from permits] at stands
        exact SenderLocks.standing_next_acquire stands sender
    | release sender =>
        rw [Stance.next_asked_release]
        exact runs.locks.standing_next_release run
    | _ =>
        rw [Stance.next_asked fun _ => ServiceRequest.noConfusion]
        exact stands

/-- A run whose question is answered fits when it did so while it waited. -/
theorem Position.Fits.answer {runs : Runs Id} {run : Id} {request : ServiceRequest}
    {next : request.Answer → Consultation Hash}
    (fits : (Position.waiting request next).Fits derive runs.history runs.locks run)
    (answered : Runs.isAnswered (Runs.onLook runs.locks run request) run request = true)
    {reply : request.Answer} (expected : DerivesAs derive request reply) :
    (Position.ready (next reply)).Fits derive (⟨run, .answered request reply⟩ :: runs.history)
      (Runs.onLook runs.locks run request) run := by
  obtain ⟨-, follows, stands⟩ := fits
  rw [Fits, History.stance_cons_self]
  refine ⟨follows reply expected, ?_⟩
  cases request with
  | acquire sender => exact of_decide_eq_true answered
  | release sender =>
      rw [Stance.standing_next_answered fun _ => ServiceRequest.noConfusion]
      exact (runs.locks.standing_tidy sender run).trans stands
  | _ =>
      rw [Stance.standing_next_answered fun _ => ServiceRequest.noConfusion]
      exact stands

/-- A run that has no answer yet waits for a lock, and goes on waiting. -/
theorem Position.Fits.wait {runs : Runs Id} {run : Id} {request : ServiceRequest}
    {next : request.Answer → Consultation Hash}
    (fits : (Position.waiting request next).Fits derive runs.history runs.locks run)
    (unanswered : Runs.isAnswered (Runs.onLook runs.locks run request) run request ≠ true) :
    (Position.waiting request next).Fits derive runs.history
      (Runs.onLook runs.locks run request) run := by
  obtain ⟨waits, follows, stands⟩ := fits
  refine ⟨waits, follows, ?_⟩
  cases request with
  | acquire sender =>
      obtain ⟨held, here⟩ := stands
      exact SenderLocks.standing_next_poll here
  | _ => exact absurd rfl unanswered

namespace Runs

/-- A run that has the lock of a sender stands so in the locks. -/
theorem Sound.standing_of_lock? {runs : Runs Id} (sound : runs.Sound derive) {run : Id}
    {sender : Address} (locked : (runs.history.stance run).lock? = some sender) :
    runs.locks.standing run = some (sender, true) := by
  have stands : (runs.history.stance run).standing = some (sender, true) := by
    rw [Stance.standing, locked]
    rfl
  have fits := sound.fits run
  cases position : runs.position run with
  | ready rest =>
      rw [position] at fits
      exact fits.2.trans stands
  | waiting request next =>
      rw [position] at fits
      obtain ⟨waits, -, here⟩ := fits
      cases request with
      | acquire other =>
          have apart : runs.history.stance run = .apart :=
            sound.legal.permits_of_pending waits fun _ => ServiceRequest.noConfusion
          rw [apart] at locked
          cases locked
      | _ => exact here.trans stands

/-- A lock that a run finds held is the lock of no other run. -/
theorem Sound.legal_answer {runs : Runs Id} (sound : runs.Sound derive) {run : Id}
    {request : ServiceRequest} (waits : runs.history.pending run = some request)
    (answered : isAnswered (onLook runs.locks run request) run request = true)
    (reply : request.Answer) :
    History.Legal (⟨run, .answered request reply⟩ :: runs.history) := by
  refine ⟨sound.legal, waits, ?_⟩
  rintro sender rfl other locked
  have mine : (onLook runs.locks run (.acquire sender)).standing run = some (sender, true) :=
    of_decide_eq_true answered
  have apart : runs.history.stance run = .apart :=
    sound.legal.permits_of_pending waits fun _ => ServiceRequest.noConfusion
  have unlike : run ≠ other := by
    rintro rfl
    rw [apart] at locked
    cases locked
  have theirs : (onLook runs.locks run (.acquire sender)).standing other = some (sender, true) := by
    rw [standing_onLook_of_ne _ unlike]
    exact sound.standing_of_lock? locked
  exact unlike ((coherent_onLook sound.coherent run _).eq_of_standing mine theirs)

/-- Runs stay sound when one of them acts and nothing changes for the others. -/
theorem Sound.acted {runs : Runs Id} (sound : runs.Sound derive) {locks : SenderLocks Id}
    {run : Id} {act : Act} {position : Position} (coherent : locks.Coherent)
    (legal : History.Legal (⟨run, act⟩ :: runs.history))
    (fits : position.Fits derive (⟨run, act⟩ :: runs.history) locks run)
    (frame : ∀ {other}, run ≠ other → locks.standing other = runs.locks.standing other) :
    Sound derive
      { locks
        position := Function.update runs.position run position
        history := ⟨run, act⟩ :: runs.history } := by
  refine ⟨coherent, legal, ?_⟩
  intro other
  change (Function.update runs.position run position other).Fits derive
    (⟨run, act⟩ :: runs.history) locks other
  by_cases own : run = other
  · subst own
    rw [Function.update_self]
    exact fits
  · rw [Function.update_of_ne (Ne.symm own)]
    exact (sound.fits other).frame (History.stance_cons_of_ne own _)
      (History.pending_cons_of_ne own _) (frame own)

/-- **A step keeps runs sound.** -/
theorem Sound.step {runs : Runs Id} (sound : runs.Sound derive) {world : World Id}
    (expected : ∀ history run request, DerivesAs derive request (world history run request))
    (run : Id) : (runs.step world run).Sound derive := by
  have fits := sound.fits run
  unfold Runs.step
  split
  · rename_i request next position
    rw [position] at fits
    exact sound.acted (coherent_onQuestion sound.coherent run request) ⟨sound.legal, fits.1.1⟩
      fits.question fun apart => standing_onQuestion_of_ne _ apart request
  · exact sound
  · rename_i request next position
    rw [position] at fits
    have coherent := coherent_onLook sound.coherent run request
    dsimp only
    split
    · rename_i answered
      exact sound.acted coherent (sound.legal_answer fits.1 answered _)
        (fits.answer answered (expected _ _ _)) fun apart => standing_onLook_of_ne _ apart request
    · rename_i unanswered
      refine ⟨coherent, sound.legal, ?_⟩
      intro other
      by_cases own : run = other
      · subst own
        rw [position]
        exact fits.wait unanswered
      · exact (sound.fits other).frame rfl rfl (standing_onLook_of_ne _ own request)

/-- In a world that derives as expected, every schedule leaves a sound state. -/
theorem sound_scheduled {world : World Id}
    (expected : ∀ history run request, DerivesAs derive request (world history run request))
    (pipeline : Pipeline) (requests : Id → Request) (schedule : List Id) :
    (scheduled world pipeline requests schedule).Sound derive := by
  induction schedule using List.reverseRecOn with
  | nil =>
      exact ⟨SenderLocks.coherent_empty, trivial,
        fun run => ⟨pipeline.keeps_send (requests run), rfl⟩⟩
  | append_singleton schedule run ih =>
      unfold scheduled
      rw [List.foldl_append]
      exact ih.step expected run

/-- Steps take nothing back that was done. -/
theorem history_suffix_foldl (world : World Id) (runs : Runs Id) (schedule : List Id) :
    runs.history <:+ (schedule.foldl (step world) runs).history := by
  induction schedule generalizing runs with
  | nil => exact List.suffix_refl _
  | cons run schedule ih =>
      refine List.IsSuffix.trans ?_ (ih _)
      unfold step
      split
      · exact List.suffix_cons _ _
      · exact List.suffix_refl _
      · dsimp only
        split
        · exact List.suffix_cons _ _
        · exact List.suffix_refl _

/-! ## A world that counts -/

variable {world : World Id} {first : Address → Nat}

/-- A step writes down what the world answers. -/
theorem answeredBy_step {runs : Runs Id} (answered : runs.history.AnsweredBy world) (run : Id) :
    (runs.step world run).history.AnsweredBy world := by
  unfold step
  split
  · exact answered
  · exact answered
  · dsimp only
    split
    · exact ⟨answered, rfl⟩
    · exact answered

/-- Every answer in a scheduled history is the world's. -/
theorem answeredBy_scheduled (world : World Id) (pipeline : Pipeline) (requests : Id → Request)
    (schedule : List Id) :
    (scheduled world pipeline requests schedule).history.AnsweredBy world := by
  induction schedule using List.reverseRecOn with
  | nil => trivial
  | append_singleton schedule run ih =>
      unfold scheduled
      rw [List.foldl_append]
      exact answeredBy_step ih run

/-- In a world that counts, the tally explains the history of any schedule. -/
theorem explains_scheduled (counts : world.Counts first) (pipeline : Pipeline)
    (requests : Id → Request) (schedule : List Id) :
    let history := (scheduled world pipeline requests schedule).history
    history.Explains (history.tally first) :=
  (answeredBy_scheduled world pipeline requests schedule).explains counts

/-- **Nonces only grow in a world that counts.** In any schedule each operation accepted for a sender
has a greater nonce than those before it. -/
theorem accepted_pairwise_scheduled (consistent : world.Consistent) (counts : world.Counts first)
    (pipeline : Pipeline) (requests : Id → Request) (schedule : List Id) (sender : Address) :
    ((scheduled world pipeline requests schedule).history.accepted sender).Pairwise
      fun later earlier => earlier < later := by
  obtain ⟨derive, expected⟩ := consistent.exists_derive
  have sound := sound_scheduled expected pipeline requests schedule
  exact sound.legal.accepted_pairwise (explains_scheduled counts pipeline requests schedule) sender

end Runs

end AccountRelay
