import AccountRelay.Proofs.SenderLocks.Leaving
import Mathlib.Data.List.Induction

/-! # One holder a sender

Acquires of any senders are started, looked at, given back and given up in any order. Giving back a
held lock may happen in its two halves, with steps of others in between, so `Step.release` and
`Step.tidy` are steps of their own next to `Step.drop`. Whatever was done, the locks are coherent
(`coherent_after`), so nobody shares a lock with anybody, and no mutex that somebody refers to
leaves the map (`one_holder_and_one_mutex`).
-/

namespace AccountRelay.SenderLocks

/-- One step of somebody who uses the locks. -/
inductive Step (Id : Type)
  /-- Starts an acquire under an id, and looks once. -/
  | acquire (id : Id) (sender : Address)
  /-- Looks whether an acquire has got its lock. -/
  | poll (id : Id)
  /-- Gives back a held lock, or gives up an acquire that does not hold it yet. -/
  | drop (id : Id)
  /-- The first half of giving back: the ticket goes and its mutex is handed on. -/
  | release (id : Id)
  /-- The second half of giving back: the map is tidied. It may come at any time. -/
  | tidy (sender : Address)

variable {Id : Type} [DecidableEq Id]

/-- The locks after a step. An id names one acquire at a time: while it is in use nothing is started
under it. -/
def next (locks : SenderLocks Id) : Step Id → SenderLocks Id
  | .acquire id sender =>
    if (locks.ticket? id).isSome then locks else locks.acquire id sender
  | .poll id => locks.poll id
  | .drop id => locks.drop id
  | .release id =>
    match locks.ticket? id with
    | some ticket => locks.release ticket
    | none => locks
  | .tidy sender => locks.tidy sender

/-- The locks after steps from the start, when nobody has asked for a lock. -/
def after (steps : List (Step Id)) : SenderLocks Id :=
  steps.foldl next {}

/-- Before any step there are no locks. -/
@[simp] theorem after_nil : after ([] : List (Step Id)) = {} := rfl

/-- The last step is taken from where the others led. -/
@[simp] theorem after_concat (steps : List (Step Id)) (step : Step Id) :
    after (steps ++ [step]) = (after steps).next step := by
  simp [after]

/-- An id without a ticket may acquire. -/
theorem next_acquire {locks : SenderLocks Id} {id : Id} (fresh : locks.ticket? id = none)
    (sender : Address) : locks.next (.acquire id sender) = locks.acquire id sender := by
  simp [next, fresh]

/-- Every step keeps the locks coherent. -/
theorem Coherent.next {locks : SenderLocks Id} (coherent : locks.Coherent) (step : Step Id) :
    (locks.next step).Coherent := by
  cases step with
  | acquire id sender =>
      simp only [SenderLocks.next]
      split
      · exact coherent
      · rename_i unused
        exact coherent.acquire (Option.not_isSome_iff_eq_none.mp unused) sender
  | poll id => exact coherent.poll id
  | drop id => exact coherent.drop id
  | release id =>
      simp only [SenderLocks.next]
      split
      · rename_i ticket found
        exact coherent.release (mem_of_ticket? found).1
      · exact coherent
  | tidy sender => exact coherent.tidy sender

/-- Every run of steps leaves the locks coherent. -/
theorem coherent_after (steps : List (Step Id)) : (after steps).Coherent := by
  induction steps using List.reverseRecOn with
  | nil => exact coherent_empty
  | append_singleton steps step ih =>
      rw [after_concat]
      exact ih.next step

omit [DecidableEq Id] in
/-- The acquires that hold the lock of a sender. -/
def holders (locks : SenderLocks Id) (sender : Address) : List (Ticket Id) :=
  (locks.line sender).filter (·.stage = .held)

omit [DecidableEq Id] in
/-- At most the first of a line holds its lock. -/
theorem Coherent.length_holders_le_one {locks : SenderLocks Id} (coherent : locks.Coherent)
    (sender : Address) : (locks.holders sender).length ≤ 1 := by
  have orderly := coherent.orderly sender
  unfold holders
  cases shape : locks.line sender with
  | nil => exact Nat.zero_le 1
  | cons first rest =>
      rw [shape] at orderly
      have waiting : rest.filter (·.stage = .held) = [] := by
        apply List.filter_eq_nil_iff.mpr
        intro ticket member
        simp [orderly.2 ticket member]
      rw [List.filter_cons, waiting]
      split
      · exact Nat.le_refl 1
      · exact Nat.zero_le 1

/-- An acquire of a sender whose line is empty holds its lock at once. -/
theorem Coherent.held_of_line_eq_nil {locks : SenderLocks Id} (coherent : locks.Coherent)
    {id : Id} (fresh : locks.ticket? id = none) {sender : Address}
    (empty : locks.line sender = []) :
    ∃ ticket, (locks.acquire id sender).ticket? id = some ticket ∧
      ticket.sender = sender ∧ ticket.stage = .held := by
  have joined := coherent.line_acquire id sender sender
  rw [if_pos rfl, if_pos empty, empty, List.nil_append] at joined
  have member := mem_line.mp (joined ▸ List.mem_singleton_self _)
  exact ⟨_, (coherent.acquire fresh sender).ticket?_eq_some member.1, rfl, rfl⟩

/-- **One holder, one mutex.** After any steps at most one acquire of a sender holds its lock, the
map has one entry a sender, and every acquire refers to the mutex that the map stores for its
sender; tidying does not change that. An acquire of a sender of whom nobody holds or awaits the lock
holds it at its first look. -/
theorem one_holder_and_one_mutex (steps : List (Step Id)) :
    let locks := after steps
    (∀ sender, (locks.holders sender).length ≤ 1) ∧
    (locks.entries.map (·.1)).Nodup ∧
    (∀ ticket ∈ locks.tickets, locks.mutex? ticket.sender = some ticket.mutex) ∧
    (∀ ticket ∈ locks.tickets, ∀ sender,
      (locks.tidy sender).mutex? ticket.sender = some ticket.mutex) ∧
    ∀ id sender, locks.ticket? id = none →
      (∀ ticket ∈ locks.tickets, ticket.sender ≠ sender) →
      ∃ ticket, (locks.next (.acquire id sender)).ticket? id = some ticket ∧
        ticket.sender = sender ∧ ticket.stage = .held := by
  intro locks
  have coherent : locks.Coherent := coherent_after steps
  refine ⟨coherent.length_holders_le_one, coherent.distinct_senders,
    fun ticket member => coherent.stored member, ?_, ?_⟩
  · intro ticket member sender
    apply (coherent.tidy sender).stored
    rw [tickets_tidy]
    exact member
  · intro id sender fresh nobody
    have empty : locks.line sender = [] := by
      apply List.filter_eq_nil_iff.mpr
      intro ticket member
      simpa using nobody ticket member
    rw [next_acquire fresh]
    exact coherent.held_of_line_eq_nil fresh empty

end AccountRelay.SenderLocks
