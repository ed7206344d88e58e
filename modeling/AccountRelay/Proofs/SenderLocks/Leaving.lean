import AccountRelay.Proofs.SenderLocks.Line

/-! # Leaving the line

A ticket leaves its line when its lock is given back and when it is given up. Either way the first
that is left in the line is served (`Coherent.line_release`, `Coherent.line_drop`). Tidying touches
no line: it removes the entry of a sender whose mutex nobody refers to, and no other entry
(`mutex?_tidy`).
-/

namespace AccountRelay.SenderLocks

variable {Id : Type} [DecidableEq Id]

omit [DecidableEq Id] in
/-- Granting moves no ticket to another sender or mutex. -/
theorem mem_grantFirst {mutex : Nat} {tickets : List (Ticket Id)} {ticket : Ticket Id}
    (member : ticket ∈ grantFirst mutex tickets) :
    ∃ before ∈ tickets, before.sender = ticket.sender ∧ before.mutex = ticket.mutex := by
  induction tickets with
  | nil => exact absurd member List.not_mem_nil
  | cons first rest ih =>
      unfold grantFirst at member
      split at member
      · rcases List.mem_cons.mp member with here | behind
        · exact ⟨first, List.mem_cons_self, by rw [here], by rw [here]⟩
        · exact ⟨ticket, List.mem_cons_of_mem _ behind, rfl, rfl⟩
      · rcases List.mem_cons.mp member with here | behind
        · exact ⟨first, List.mem_cons_self, by rw [here], by rw [here]⟩
        · obtain ⟨before, earlier, same⟩ := ih behind
          exact ⟨before, List.mem_cons_of_mem _ earlier, same⟩

omit [DecidableEq Id] in
/-- Granting neither adds, removes nor reorders tickets. -/
@[simp] theorem map_id_grantFirst (mutex : Nat) (tickets : List (Ticket Id)) :
    (grantFirst mutex tickets).map (·.id) = tickets.map (·.id) := by
  induction tickets with
  | nil => rfl
  | cons first rest ih =>
      unfold grantFirst
      split
      · rfl
      · simp [ih]

omit [DecidableEq Id] in
/-- Among tickets that all wait for a mutex, granting the first serves the line of the mutex's
sender and no other. -/
theorem filter_grantFirst {mutex : Nat} {sender : Address} {tickets : List (Ticket Id)}
    (serves : ∀ ticket ∈ tickets, ticket.mutex = mutex ↔ ticket.sender = sender)
    (free : ∀ ticket ∈ tickets, ticket.mutex = mutex → ticket.stage = .queued)
    (other : Address) :
    (grantFirst mutex tickets).filter (·.sender = other) =
      if other = sender then serveFirst (tickets.filter (·.sender = other))
      else tickets.filter (·.sender = other) := by
  induction tickets with
  | nil => split <;> rfl
  | cons first rest ih =>
      have later := ih (fun ticket member => serves ticket (List.mem_cons_of_mem _ member))
        (fun ticket member => free ticket (List.mem_cons_of_mem _ member))
      by_cases own : first.mutex = mutex
      · have waits := free first List.mem_cons_self own
        have standing := (serves first List.mem_cons_self).mp own
        rw [grantFirst, if_pos ⟨own, waits⟩]
        by_cases same : other = sender
        · have here : decide (first.sender = other) = true := by simp [standing, same]
          rw [if_pos same, List.filter_cons_of_pos (by simpa using here),
            List.filter_cons_of_pos (by simpa using here)]
          simp [serveFirst, Ticket.served, waits]
        · have elsewhere : ¬first.sender = other := by
            rw [standing]
            exact Ne.symm same
          rw [if_neg same, List.filter_cons_of_neg (by simpa using elsewhere),
            List.filter_cons_of_neg (by simpa using elsewhere)]
      · have elsewhere := fun standing => own ((serves first List.mem_cons_self).mpr standing)
        rw [grantFirst, if_neg (fun both => own both.1)]
        by_cases same : other = sender
        · subst same
          rw [if_pos rfl] at later ⊢
          rw [List.filter_cons_of_neg (by simpa using elsewhere),
            List.filter_cons_of_neg (by simpa using elsewhere)]
          exact later
        · rw [if_neg same] at later ⊢
          simp only [List.filter_cons, later]

/-- A ticket that goes leaves the lines of other senders alone. -/
theorem Coherent.line_filter_eq_self {locks : SenderLocks Id}
    (coherent : locks.Coherent) {ticket : Ticket Id} (member : ticket ∈ locks.tickets)
    {other : Address} (elsewhere : other ≠ ticket.sender) :
    (locks.line other).filter (·.id ≠ ticket.id) = locks.line other := by
  apply List.filter_eq_self.mpr
  intro standing present
  obtain ⟨known, same⟩ := mem_line.mp present
  refine decide_eq_true fun equal => elsewhere ?_
  rw [← same, coherent.eq_of_id_eq known member equal]

/-- A ticket that goes makes room: the first that is left in its line is served, and the lines of
other senders stay as they are. -/
theorem Coherent.line_release {locks : SenderLocks Id} (coherent : locks.Coherent)
    {ticket : Ticket Id} (member : ticket ∈ locks.tickets) (other : Address) :
    (locks.release ticket).line other =
      if other = ticket.sender then serveFirst ((locks.line other).filter (·.id ≠ ticket.id))
      else locks.line other := by
  have entry := coherent.stored member
  have left_line : (locks.tickets.filter (·.id ≠ ticket.id)).filter (·.sender = other) =
      (locks.line other).filter (·.id ≠ ticket.id) := by
    simp only [line, List.filter_filter, Bool.and_comm]
  have serves : ∀ left ∈ locks.tickets.filter (·.id ≠ ticket.id),
      left.mutex = ticket.mutex ↔ left.sender = ticket.sender :=
    fun left stays => coherent.mutex_eq_iff entry (List.mem_filter.mp stays).1
  unfold release handOver
  split
  · rename_i taken
    change (locks.tickets.filter (·.id ≠ ticket.id)).filter (·.sender = other) = _
    rw [left_line]
    by_cases same : other = ticket.sender
    · obtain ⟨holder, stays, own, given⟩ := isTaken_iff.mp taken
      have standing : holder ∈ (locks.line other).filter (·.id ≠ ticket.id) := by
        rw [← left_line]
        exact List.mem_filter.mpr ⟨stays, by simpa [same] using (serves holder stays).mp own⟩
      rw [if_pos same, (coherent.orderly other).serveFirst_filter_eq_self standing given]
    · rw [if_neg same, coherent.line_filter_eq_self member same]
  · rename_i free
    change (grantFirst ticket.mutex (locks.tickets.filter (·.id ≠ ticket.id))).filter
      (·.sender = other) = _
    have waits : ∀ left ∈ locks.tickets.filter (·.id ≠ ticket.id),
        left.mutex = ticket.mutex → left.stage = .queued := by
      intro left stays own
      by_cases queued : left.stage = .queued
      · exact queued
      · exact absurd (isTaken_iff.mpr ⟨left, stays, own, queued⟩) free
    rw [filter_grantFirst serves waits, left_line]
    by_cases same : other = ticket.sender
    · rw [if_pos same, if_pos same]
    · rw [if_neg same, if_neg same, coherent.line_filter_eq_self member same]

/-- A released lock stays in the map until it is tidied. -/
theorem mutex?_release (locks : SenderLocks Id) (ticket : Ticket Id) (sender : Address) :
    (locks.release ticket).mutex? sender = locks.mutex? sender := by
  unfold release handOver
  split <;> rfl

/-- A ticket left after a release stood there before, for the same sender and mutex. -/
theorem mem_tickets_release {locks : SenderLocks Id} {ticket left : Ticket Id}
    (member : left ∈ (locks.release ticket).tickets) :
    ∃ before ∈ locks.tickets, before.sender = left.sender ∧ before.mutex = left.mutex := by
  unfold release handOver at member
  split at member
  · exact ⟨left, (List.mem_filter.mp member).1, rfl, rfl⟩
  · obtain ⟨before, stays, same⟩ := mem_grantFirst member
    exact ⟨before, (List.mem_filter.mp stays).1, same⟩

/-- A release takes away the released ticket and no other. -/
theorem map_id_release (locks : SenderLocks Id) (ticket : Ticket Id) :
    (locks.release ticket).tickets.map (·.id) =
      (locks.tickets.filter (·.id ≠ ticket.id)).map (·.id) := by
  unfold release handOver
  split
  · rfl
  · exact map_id_grantFirst _ _

/-- A release keeps every ticket on the mutex of its sender. -/
theorem Coherent.release {locks : SenderLocks Id} (coherent : locks.Coherent)
    {ticket : Ticket Id} (member : ticket ∈ locks.tickets) :
    (locks.release ticket).Coherent := by
  have unchanged : (locks.release ticket).entries = locks.entries ∧
      (locks.release ticket).made = locks.made := by
    unfold SenderLocks.release handOver
    split <;> exact ⟨rfl, rfl⟩
  exact {
    distinct_ids := by
      rw [map_id_release]
      exact coherent.distinct_ids.sublist (List.filter_sublist.map _)
    distinct_senders := by
      rw [unchanged.1]
      exact coherent.distinct_senders
    distinct_mutexes := by
      intro first second mutex left right
      rw [mutex?_release] at left right
      exact coherent.distinct_mutexes left right
    made := by
      intro sender mutex entry
      rw [mutex?_release] at entry
      rw [unchanged.2]
      exact coherent.made entry
    stored := by
      intro left stays
      obtain ⟨before, earlier, sender, mutex⟩ := mem_tickets_release stays
      rw [mutex?_release, ← sender, ← mutex]
      exact coherent.stored earlier
    orderly := by
      intro sender
      rw [coherent.line_release member]
      split
      · exact (coherent.orderly sender).serveFirst_filter _
      · exact coherent.orderly sender }

/-! ## Tidying -/

omit [DecidableEq Id] in
/-- Tidying touches no ticket. -/
@[simp] theorem tickets_tidy (locks : SenderLocks Id) (sender : Address) :
    (locks.tidy sender).tickets = locks.tickets := by
  unfold tidy
  split
  · rfl
  · split <;> rfl

omit [DecidableEq Id] in
/-- Tidying leaves every line as it stood. -/
@[simp] theorem line_tidy (locks : SenderLocks Id) (sender other : Address) :
    (locks.tidy sender).line other = locks.line other := by
  simp [line]

omit [DecidableEq Id] in
/-- Tidying removes the entry of a sender when nobody refers to its mutex, and no other entry. -/
theorem mutex?_tidy (locks : SenderLocks Id) (sender other : Address) :
    (locks.tidy sender).mutex? other =
      if other = sender ∧ ∀ ticket ∈ locks.tickets, locks.mutex? sender ≠ some ticket.mutex then none
      else locks.mutex? other := by
  unfold tidy
  split
  · rename_i absent
    split
    · rename_i unused
      rw [unused.1, absent]
    · rfl
  · rename_i mutex entry
    split
    · rename_i used
      obtain ⟨ticket, member, same⟩ := List.any_eq_true.mp used
      rw [if_neg]
      rintro ⟨_, unused⟩
      exact unused ticket member (by rw [entry, of_decide_eq_true same])
    · rename_i unused
      have nobody : ∀ ticket ∈ locks.tickets, locks.mutex? sender ≠ some ticket.mutex := by
        intro ticket member same
        rw [entry] at same
        exact unused (List.any_eq_true.mpr
          ⟨ticket, member, decide_eq_true (Option.some.inj same).symm⟩)
      change (locks.entries.filter (·.1 ≠ sender)).lookup other = _
      rw [Association.lookup_filter_ne]
      by_cases same : other = sender
      · rw [if_pos same, if_pos ⟨same, nobody⟩]
      · rw [if_neg same, if_neg (fun both => same both.1)]
        rfl

omit [DecidableEq Id] in
/-- Tidying drops an entry only where no ticket refers to it, so it keeps the locks coherent. -/
theorem Coherent.tidy {locks : SenderLocks Id} (coherent : locks.Coherent) (sender : Address) :
    (locks.tidy sender).Coherent := by
  have kept : ∀ {other mutex}, (locks.tidy sender).mutex? other = some mutex →
      locks.mutex? other = some mutex := by
    intro other mutex entry
    rw [mutex?_tidy] at entry
    split at entry
    · cases entry
    · exact entry
  exact {
    distinct_ids := by
      rw [tickets_tidy]
      exact coherent.distinct_ids
    distinct_senders := by
      unfold SenderLocks.tidy
      split
      · exact coherent.distinct_senders
      · split
        · exact coherent.distinct_senders
        · exact coherent.distinct_senders.sublist (List.filter_sublist.map _)
    distinct_mutexes := fun left right => coherent.distinct_mutexes (kept left) (kept right)
    made := by
      intro other mutex entry
      have same : (locks.tidy sender).made = locks.made := by
        unfold SenderLocks.tidy
        split
        · rfl
        · split <;> rfl
      rw [same]
      exact coherent.made (kept entry)
    stored := by
      intro ticket member
      rw [tickets_tidy] at member
      have own := coherent.stored member
      rw [mutex?_tidy, if_neg, own]
      -- an entry that a ticket refers to is not tidied
      rintro ⟨same, unused⟩
      rw [← same] at unused
      exact unused ticket member own
    orderly := by
      intro other
      rw [line_tidy]
      exact coherent.orderly other }

/-- Nothing of a line is lost when a ticket is dropped: it goes, and the first that is left in its
line is served. -/
theorem Coherent.line_drop {locks : SenderLocks Id} (coherent : locks.Coherent)
    {ticket : Ticket Id} (member : ticket ∈ locks.tickets) (other : Address) :
    (locks.drop ticket.id).line other =
      if other = ticket.sender then serveFirst ((locks.line other).filter (·.id ≠ ticket.id))
      else locks.line other := by
  have found := coherent.ticket?_eq_some member
  simp only [drop, found]
  split
  · rw [line_tidy, coherent.line_release member]
  · rw [coherent.line_release member]

/-- A guard that is dropped, which is a release and a tidying, keeps the locks coherent. -/
theorem Coherent.drop {locks : SenderLocks Id} (coherent : locks.Coherent) (id : Id) :
    (locks.drop id).Coherent := by
  unfold SenderLocks.drop
  split
  · exact coherent
  · rename_i ticket found
    have member := (mem_of_ticket? found).1
    simp only
    split
    · exact (coherent.release member).tidy _
    · exact coherent.release member

omit [DecidableEq Id] in
/-- Before the first ticket the locks are coherent. -/
theorem coherent_empty : ({} : SenderLocks Id).Coherent where
  distinct_ids := List.nodup_nil
  distinct_senders := List.nodup_nil
  distinct_mutexes entry := by cases entry
  made entry := by cases entry
  stored member := absurd member List.not_mem_nil
  orderly _ := trivial

end AccountRelay.SenderLocks
