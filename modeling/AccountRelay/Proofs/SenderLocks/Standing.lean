import AccountRelay.Proofs.SenderLocks.Exclusion

/-! # Where an acquire stands

Seen from one acquire, locks are what is known about it: the sender it asks for, and whether it
holds the lock (`SenderLocks.standing`). Only its own steps change that (`standing_next_of_ne`), and
of two acquires that hold the lock of one sender there is only one (`Coherent.eq_of_standing`).
-/

namespace AccountRelay.SenderLocks

variable {Id : Type}

/-- The acquire or the ticket that a step is about. -/
def Step.actor? : Step Id → Option Id
  | .acquire id _ | .poll id | .drop id | .release id => some id
  | .tidy _ => none

/-- What an acquire knows of its ticket: the sender, and whether the lock is held. -/
def outlook (ticket : Ticket Id) : Address × Bool :=
  (ticket.sender, ticket.stage = .held)

variable [DecidableEq Id]

/-- The sender whose lock an acquire asks for or holds, and whether it holds it. -/
def standing (locks : SenderLocks Id) (id : Id) : Option (Address × Bool) :=
  (locks.ticket? id).map outlook

/-- An id without a standing has no ticket. -/
theorem standing_eq_none_iff {locks : SenderLocks Id} {id : Id} :
    locks.standing id = none ↔ locks.ticket? id = none :=
  Option.map_eq_none_iff

/-- Granting a ticket does not make it held. -/
theorem find?_grantFirst (mutex : Nat) (tickets : List (Ticket Id)) (id : Id) :
    ((grantFirst mutex tickets).find? (·.id = id)).map outlook =
      (tickets.find? (·.id = id)).map outlook := by
  induction tickets with
  | nil => rfl
  | cons first rest ih =>
      unfold grantFirst
      split
      · rename_i waits
        by_cases own : first.id = id
        · simp [own, outlook, waits.2]
        · simp [own]
      · by_cases own : first.id = id
        · simp [own]
        · simpa [own] using ih

/-- Taking out the tickets of an id loses its ticket and no other's. -/
theorem find?_filter_ne (tickets : List (Ticket Id)) (gone id : Id) :
    (tickets.filter (·.id ≠ gone)).find? (·.id = id) =
      if id = gone then none else tickets.find? (·.id = id) := by
  induction tickets with
  | nil => split <;> rfl
  | cons first rest ih =>
      by_cases leaves : first.id = gone
      · rw [List.filter_cons_of_neg (by simpa using leaves), ih]
        by_cases same : id = gone
        · rw [if_pos same, if_pos same]
        · have other : first.id ≠ id := fun own => same (own ▸ leaves)
          rw [if_neg same, if_neg same, List.find?_cons_of_neg (by simpa using other)]
      · rw [List.filter_cons_of_pos (by simpa using leaves)]
        by_cases own : first.id = id
        · have stays : id ≠ gone := own ▸ leaves
          simp [own, stays]
        · rw [List.find?_cons_of_neg (by simpa using own), ih,
            List.find?_cons_of_neg (by simpa using own)]

/-- Who goes stands nowhere, and all others stand where they stood. -/
theorem standing_release (locks : SenderLocks Id) (ticket : Ticket Id) (id : Id) :
    (locks.release ticket).standing id = if id = ticket.id then none else locks.standing id := by
  unfold standing release handOver ticket?
  split
  · change ((locks.tickets.filter (·.id ≠ ticket.id)).find? (·.id = id)).map outlook = _
    rw [find?_filter_ne]
    split <;> rfl
  · change ((grantFirst ticket.mutex (locks.tickets.filter (·.id ≠ ticket.id))).find?
      (·.id = id)).map outlook = _
    rw [find?_grantFirst, find?_filter_ne]
    split <;> rfl

/-- Tidying leaves everyone's standing. -/
@[simp] theorem standing_tidy (locks : SenderLocks Id) (sender : Address) (id : Id) :
    (locks.tidy sender).standing id = locks.standing id := by
  unfold standing ticket?
  rw [tickets_tidy]

/-- Looking moves on the ticket of the id that looks, and no other's. -/
theorem ticket?_poll (locks : SenderLocks Id) (id other : Id) :
    (locks.poll id).ticket? other = (locks.ticket? other).map (lookedBy id) := by
  unfold ticket?
  rw [tickets_poll, List.find?_map]
  congr 2
  funext ticket
  simp

/-- To acquire makes a ticket for an id that has none, and keeps the tickets there are. -/
theorem ticket?_acquire (locks : SenderLocks Id) (id : Id) (sender : Address) (other : Id) :
    ∃ mutex stage, (locks.acquire id sender).ticket? other =
      (locks.ticket? other).or (if other = id then some { id, sender, mutex, stage } else none) := by
  have joined : ∀ ticket : Ticket Id, (locks.tickets ++ [ticket]).find? (·.id = other) =
      (locks.ticket? other).or (if other = ticket.id then some ticket else none) := by
    intro ticket
    rw [List.find?_append]
    congr 1
    by_cases own : other = ticket.id
    · simp [own]
    · simp [own, Ne.symm own]
  rw [acquire_eq]
  exact ⟨_, _, joined _⟩

/-- **Others leave an acquire where it stands.** -/
theorem standing_next_of_ne (locks : SenderLocks Id) {step : Step Id} {id : Id}
    (other : step.actor? ≠ some id) : (locks.next step).standing id = locks.standing id := by
  cases step with
  | acquire actor sender =>
      simp only [next]
      split
      · rfl
      · obtain ⟨_, _, found⟩ := locks.ticket?_acquire actor sender id
        have apart : id ≠ actor := fun same => other (congrArg some same.symm)
        rw [if_neg apart, Option.or_none] at found
        rw [standing, found, standing]
  | poll actor =>
      have apart : ∀ ticket, locks.ticket? id = some ticket → lookedBy actor ticket = ticket := by
        intro ticket found
        have unlike : ticket.id ≠ actor :=
          (mem_of_ticket? found).2 ▸ fun same => other (congrArg some same.symm)
        exact if_neg unlike
      simp only [next]
      rw [standing, ticket?_poll, standing]
      cases found : locks.ticket? id with
      | none => rfl
      | some ticket => rw [Option.map_some, apart ticket found]
  | drop actor =>
      simp only [next, drop]
      split
      · rfl
      · rename_i ticket found
        have apart : id ≠ ticket.id :=
          (mem_of_ticket? found).2 ▸ fun same => other (congrArg some same.symm)
        split
        · rw [standing_tidy, standing_release, if_neg apart]
        · rw [standing_release, if_neg apart]
  | release actor =>
      simp only [next]
      split
      · rename_i ticket found
        have apart : id ≠ ticket.id :=
          (mem_of_ticket? found).2 ▸ fun same => other (congrArg some same.symm)
        rw [standing_release, if_neg apart]
      · rfl
  | tidy sender => exact standing_tidy locks sender id

/-- A started acquire stands in the line of its sender. -/
theorem standing_next_acquire {locks : SenderLocks Id} {id : Id} (fresh : locks.standing id = none)
    (sender : Address) :
    ∃ held, (locks.next (.acquire id sender)).standing id = some (sender, held) := by
  have unused := standing_eq_none_iff.mp fresh
  obtain ⟨_, _, found⟩ := locks.ticket?_acquire id sender id
  rw [unused, if_pos rfl, Option.none_or] at found
  rw [next_acquire unused, standing, found]
  exact ⟨_, rfl⟩

/-- A look leaves an acquire in its line. -/
theorem standing_next_poll {locks : SenderLocks Id} {id : Id} {sender : Address} {held : Bool}
    (stands : locks.standing id = some (sender, held)) :
    ∃ held, (locks.next (.poll id)).standing id = some (sender, held) := by
  obtain ⟨ticket, found, same⟩ := Option.map_eq_some_iff.mp stands
  have own : ticket.sender = sender := congrArg Prod.fst same
  simp only [next]
  rw [standing, ticket?_poll, found, ← own]
  exact ⟨_, congrArg some (Prod.ext (lookedBy_sender id ticket) rfl)⟩

/-- Who gives a lock back stands nowhere. -/
theorem standing_next_release (locks : SenderLocks Id) (id : Id) :
    (locks.next (.release id)).standing id = none := by
  simp only [next]
  split
  · rename_i ticket found
    rw [standing_release, if_pos (mem_of_ticket? found).2.symm]
  · rename_i absent
    exact standing_eq_none_iff.mpr absent

/-- The lock of a sender is held once. -/
theorem Coherent.eq_of_standing {locks : SenderLocks Id} (coherent : locks.Coherent)
    {first second : Id} {sender : Address} (left : locks.standing first = some (sender, true))
    (right : locks.standing second = some (sender, true)) : first = second := by
  have holder : ∀ {id : Id}, locks.standing id = some (sender, true) →
      ∃ ticket ∈ locks.line sender, ticket.id = id ∧ ticket.stage ≠ .queued := by
    intro id stands
    obtain ⟨ticket, found, same⟩ := Option.map_eq_some_iff.mp stands
    have held : ticket.stage = .held := of_decide_eq_true (congrArg Prod.snd same)
    have member := mem_line.mpr ⟨(mem_of_ticket? found).1, congrArg Prod.fst same⟩
    exact ⟨ticket, member, (mem_of_ticket? found).2, by rw [held]; exact Stage.noConfusion⟩
  obtain ⟨one, one_stands, rfl, one_given⟩ := holder left
  obtain ⟨two, two_stands, rfl, two_given⟩ := holder right
  have orderly := coherent.orderly sender
  cases shape : locks.line sender with
  | nil =>
      rw [shape] at one_stands
      exact absurd one_stands List.not_mem_nil
  | cons head rest =>
      rw [shape] at one_stands two_stands orderly
      rw [orderly.eq_head one_stands one_given, orderly.eq_head two_stands two_given]

end AccountRelay.SenderLocks
