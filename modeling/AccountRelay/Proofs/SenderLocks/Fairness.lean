import AccountRelay.Proofs.SenderLocks.Exclusion

/-! # First come, first served

A step changes the line of a sender in one of three ways: an acquire joins its end, its first acquire
notices that it has been handed the lock, or an acquire leaves and makes room for the next
(`LineChange`, `Coherent.lineChange_next`). A `Journal` of a sender records which acquires were
started and were not given up, and which of them came to hold the lock. Nothing is lost and nobody
overtakes: the acquires in the journal are those that held the lock, in the order in which they came
to hold it, and then those that still wait (`Journal.Balanced`).
-/

namespace AccountRelay.SenderLocks

variable {Id : Type} [DecidableEq Id]

/-- What a step can do to a line. -/
inductive LineChange : List (Ticket Id) → List (Ticket Id) → Prop
  | same (line : List (Ticket Id)) : LineChange line line
  /-- An acquire joins the end; it has the lock when nobody stands before it. -/
  | join (line : List (Ticket Id)) (ticket : Ticket Id)
      (fresh : ∀ other ∈ line, other.id ≠ ticket.id)
      (stage : ticket.stage = if line = [] then .held else .queued) :
      LineChange line (line ++ [ticket])
  /-- The first notices that it has been handed the lock. -/
  | take (first : Ticket Id) (rest : List (Ticket Id)) (granted : first.stage = .granted) :
      LineChange (first :: rest) ({ first with stage := .held } :: rest)
  /-- An acquire leaves, and the first that is left is handed the lock if it waits for it. -/
  | leave (line : List (Ticket Id)) (ticket : Ticket Id)
      (member : ticket ∈ line) :
      LineChange line (serveFirst (line.filter (·.id ≠ ticket.id)))

/-- A look at an orderly line makes its first take the lock it was handed, or changes nothing. -/
theorem lineChange_map_lookedBy {line : List (Ticket Id)} (orderly : Orderly line) (id : Id) :
    LineChange line (line.map (lookedBy id)) := by
  cases line with
  | nil => exact .same []
  | cons first rest =>
      have waiting : rest.map (lookedBy id) = rest := by
        apply List.map_congr_left (g := fun ticket => ticket) _ |>.trans (List.map_id' rest)
        intro ticket member
        simp [lookedBy, Ticket.looked, orderly.2 ticket member]
      rw [List.map_cons, waiting]
      by_cases noticed : first.id = id ∧ first.stage = .granted
      · have taken : lookedBy id first = { first with stage := .held } := by
          rw [lookedBy, if_pos noticed.1, Ticket.looked, if_pos noticed.2]
        rw [taken]
        exact .take first rest noticed.2
      · have unchanged : lookedBy id first = first := by
          unfold lookedBy Ticket.looked
          split
          · rename_i own
            exact if_neg fun granted => noticed ⟨own, granted⟩
          · rfl
        rw [unchanged]
        exact .same _

/-- A ticket that leaves changes the line of its sender and no other. -/
theorem lineChange_of_leaving {locks after : SenderLocks Id} {ticket : Ticket Id}
    (member : ticket ∈ locks.tickets) {sender : Address}
    (line_after : after.line sender =
      if sender = ticket.sender then serveFirst ((locks.line sender).filter (·.id ≠ ticket.id))
      else locks.line sender) :
    LineChange (locks.line sender) (after.line sender) := by
  rw [line_after]
  split
  · rename_i same
    exact .leave _ ticket (mem_line.mpr ⟨member, same.symm⟩)
  · exact .same _

/-- **What a step does to a line.** It is the same for every kind of step and every sender. -/
theorem Coherent.lineChange_next {locks : SenderLocks Id} (coherent : locks.Coherent)
    (step : Step Id) (sender : Address) :
    LineChange (locks.line sender) ((locks.next step).line sender) := by
  cases step with
  | acquire id other =>
      simp only [SenderLocks.next]
      split
      · exact .same _
      · rename_i unused
        have fresh := ticket?_eq_none_iff.mp (Option.not_isSome_iff_eq_none.mp unused)
        rw [coherent.line_acquire]
        split
        · rename_i same
          subst same
          exact .join _ _ (fun ticket member => fresh ticket (mem_line.mp member).1) rfl
        · exact .same _
  | poll id =>
      simp only [SenderLocks.next]
      rw [line_poll]
      exact lineChange_map_lookedBy (coherent.orderly sender) id
  | drop id =>
      simp only [SenderLocks.next]
      cases found : locks.ticket? id with
      | none =>
          simp only [SenderLocks.drop, found]
          exact .same _
      | some ticket =>
          obtain ⟨member, same⟩ := mem_of_ticket? found
          rw [← same]
          exact lineChange_of_leaving member (coherent.line_drop member sender)
  | release id =>
      simp only [SenderLocks.next]
      cases found : locks.ticket? id with
      | none => exact .same _
      | some ticket =>
          have member := (mem_of_ticket? found).1
          exact lineChange_of_leaving member (coherent.line_release member sender)
  | tidy other =>
      simp only [SenderLocks.next]
      rw [line_tidy]
      exact .same _

/-! ## The journal of a sender -/

/-- The acquires of a line that do not hold its lock. -/
def waiting (line : List (Ticket Id)) : List Id :=
  (line.filter (·.stage ≠ .held)).map (·.id)

/-- The acquires that were started between two looks at a line. -/
def newcomers (before after : List (Ticket Id)) : List Id :=
  (after.filter fun ticket => ticket.id ∉ before.map (·.id)).map (·.id)

/-- The acquires that came to hold the lock between two looks at a line. -/
def takers (before after : List (Ticket Id)) : List Id :=
  (after.filter fun ticket => ticket.stage = .held ∧ ticket ∉ before).map (·.id)

/-- The acquires that were given up between two looks at a line, before they held the lock. -/
def leavers (before after : List (Ticket Id)) : List Id :=
  (before.filter fun ticket => ticket.stage ≠ .held ∧ ticket.id ∉ after.map (·.id)).map (·.id)

/-- What has happened in the line of a sender, latest first. -/
structure Journal (Id : Type) where
  /-- The acquires that were started, without those that were given up before they held the lock. An
  id that is used again stands for its latest acquire. -/
  started : List Id := []
  /-- The acquires that came to hold the lock. -/
  served : List Id := []

/-- The journal after a step, written from the line before it and the line after it. -/
def Journal.record (journal : Journal Id) (before after : List (Ticket Id)) : Journal Id where
  started := newcomers before after ++ journal.started.diff (leavers before after)
  served := takers before after ++ journal.served

/-- The locks and the journal of a sender after a step. -/
def nextWithJournal (sender : Address) :
    SenderLocks Id × Journal Id → Step Id → SenderLocks Id × Journal Id
  | (locks, journal), step =>
    (locks.next step, journal.record (locks.line sender) ((locks.next step).line sender))

/-- The journal of a sender after steps from the start. -/
def journal (sender : Address) (steps : List (Step Id)) : Journal Id :=
  (steps.foldl (nextWithJournal sender) ({}, {})).2

/-- The journal is kept beside the locks, and changes nothing of them. -/
theorem fst_foldl_nextWithJournal (sender : Address) (steps : List (Step Id)) :
    (steps.foldl (nextWithJournal sender) ({}, {})).1 = after steps := by
  induction steps using List.reverseRecOn with
  | nil => rfl
  | append_singleton steps step ih =>
      rw [List.foldl_concat, after_concat, ← ih]
      rfl

/-- After one more step the journal is written on from the line before it and the line after it. -/
theorem journal_concat (sender : Address) (steps : List (Step Id)) (step : Step Id) :
    journal sender (steps ++ [step]) =
      (journal sender steps).record ((after steps).line sender)
        ((after (steps ++ [step])).line sender) := by
  rw [after_concat, ← fst_foldl_nextWithJournal sender steps]
  unfold journal
  rw [List.foldl_concat]
  rfl

/-- A journal is balanced with a line when the acquires in it, latest first, are those that wait in
the line and then those that held the lock. -/
def Journal.Balanced (journal : Journal Id) (line : List (Ticket Id)) : Prop :=
  journal.started = (waiting line).reverse ++ journal.served

/-! ### What the three ways of changing a line write -/

/-- Where everybody was there before, nobody is new. -/
theorem newcomers_eq_nil {before after : List (Ticket Id)}
    (known : ∀ ticket ∈ after, ticket.id ∈ before.map (·.id)) : newcomers before after = [] := by
  unfold newcomers
  rw [List.filter_eq_nil_iff.mpr]
  · rfl
  · intro ticket member
    simpa using known ticket member

/-- Where every holder was one before, nobody has taken the lock. -/
theorem takers_eq_nil {before after : List (Ticket Id)}
    (known : ∀ ticket ∈ after, ticket.stage = .held → ticket ∈ before) :
    takers before after = [] := by
  unfold takers
  rw [List.filter_eq_nil_iff.mpr]
  · rfl
  · intro ticket member
    simpa using known ticket member

/-- Where everybody is still there, nobody has left. -/
theorem leavers_eq_nil {before after : List (Ticket Id)}
    (kept : ∀ ticket ∈ before, ticket.id ∈ after.map (·.id)) : leavers before after = [] := by
  unfold leavers
  rw [List.filter_eq_nil_iff.mpr]
  · rfl
  · intro ticket member
    simpa using fun _ => kept ticket member

/-- A line that stays as it is adds nothing to the journal. -/
theorem Journal.Balanced.same {journal : Journal Id} {line : List (Ticket Id)}
    (balanced : journal.Balanced line) : (journal.record line line).Balanced line := by
  have known : ∀ ticket ∈ line, ticket.id ∈ line.map (·.id) :=
    fun ticket member => List.mem_map_of_mem member
  unfold Journal.Balanced Journal.record
  rw [newcomers_eq_nil known, takers_eq_nil fun ticket member _ => member, leavers_eq_nil known]
  exact balanced

/-- An acquire that joins is written down as started, and as served when it holds the lock at
once. -/
theorem Journal.Balanced.join {journal : Journal Id} {line : List (Ticket Id)}
    (balanced : journal.Balanced line) {ticket : Ticket Id}
    (fresh : ∀ other ∈ line, other.id ≠ ticket.id)
    (stage : ticket.stage = if line = [] then .held else .queued) :
    (journal.record line (line ++ [ticket])).Balanced (line ++ [ticket]) := by
  have known : ∀ other ∈ line, other.id ∈ line.map (·.id) :=
    fun other member => List.mem_map_of_mem member
  have new : newcomers line (line ++ [ticket]) = [ticket.id] := by
    have unknown : ticket.id ∉ line.map (·.id) := by
      intro member
      obtain ⟨other, present, same⟩ := List.mem_map.mp member
      exact fresh other present same
    have counted : [ticket].filter (fun other => other.id ∉ line.map (·.id)) = [ticket] := by
      apply List.filter_eq_self.mpr
      intro other member
      rw [List.mem_singleton.mp member]
      exact decide_eq_true unknown
    have old := newcomers_eq_nil known
    unfold newcomers at old ⊢
    rw [List.filter_append, List.map_append, old, counted]
    rfl
  have nobody_left : leavers line (line ++ [ticket]) = [] :=
    leavers_eq_nil fun other member => by simpa using Or.inl (known other member)
  have outside : ticket ∉ line := fun member => fresh ticket member rfl
  unfold Journal.Balanced Journal.record
  rw [new, nobody_left, List.diff_nil]
  -- Who joins an empty line is served at once.
  by_cases empty : line = []
  · subst empty
    rw [if_pos rfl] at stage
    have none_waited : journal.started = journal.served := balanced
    simp [takers, waiting, stage, none_waited]
  · rw [if_neg empty] at stage
    have nobody_served : takers line (line ++ [ticket]) = [] := by
      apply takers_eq_nil
      intro other member held
      rcases List.mem_append.mp member with earlier | last
      · exact earlier
      · rw [List.mem_singleton.mp last, stage] at held
        cases held
    rw [nobody_served, balanced]
    simp [waiting, stage]

/-- An acquire that notices its lock was the first that waited, and is written down as served. -/
theorem Journal.Balanced.take {journal : Journal Id} {first : Ticket Id} {rest : List (Ticket Id)}
    (balanced : journal.Balanced (first :: rest)) (granted : first.stage = .granted)
    (orderly : Orderly (first :: rest)) :
    (journal.record (first :: rest) ({ first with stage := .held } :: rest)).Balanced
      ({ first with stage := .held } :: rest) := by
  have nobody_new : newcomers (first :: rest) ({ first with stage := .held } :: rest) = [] := by
    apply newcomers_eq_nil
    intro ticket member
    rcases List.mem_cons.mp member with here | behind
    · simp [here]
    · exact List.mem_map_of_mem (List.mem_cons_of_mem _ behind)
  have nobody_left : leavers (first :: rest) ({ first with stage := .held } :: rest) = [] := by
    apply leavers_eq_nil
    intro ticket member
    rcases List.mem_cons.mp member with here | behind
    · simp [here]
    · exact List.mem_map_of_mem (List.mem_cons_of_mem _ behind)
  have served : takers (first :: rest) ({ first with stage := .held } :: rest) = [first.id] := by
    have others : rest.filter (fun ticket => ticket.stage = .held ∧ ticket ∉ first :: rest) = [] := by
      apply List.filter_eq_nil_iff.mpr
      intro ticket member
      simp [orderly.2 ticket member]
    have changed : ({ first with stage := .held } : Ticket Id) ∉ first :: rest := by
      intro member
      rcases List.mem_cons.mp member with here | behind
      · have stage := congrArg Ticket.stage here
        rw [granted] at stage
        cases stage
      · have stage := orderly.2 _ behind
        cases stage
    rw [takers, List.filter_cons_of_pos (by simpa using changed), others]
    rfl
  have still_waiting : waiting (first :: rest) =
      first.id :: waiting ({ first with stage := .held } :: rest) := by
    simp [waiting, granted]
  unfold Journal.Balanced Journal.record
  rw [nobody_new, nobody_left, served, balanced, still_waiting]
  simp

omit [DecidableEq Id] in
/-- Who is handed the lock does not hold it before noticing. -/
theorem served_stage_eq_held_iff (ticket : Ticket Id) :
    ticket.served.stage = .held ↔ ticket.stage = .held := by
  unfold Ticket.served
  split
  · rename_i queued
    simp [queued]
  · rfl

omit [DecidableEq Id] in
/-- Serving the first of a line makes nobody hold the lock. -/
@[simp] theorem waiting_serveFirst (line : List (Ticket Id)) :
    waiting (serveFirst line) = waiting line := by
  cases line with
  | nil => rfl
  | cons first rest =>
      by_cases held : first.stage = .held
      · simp [serveFirst, waiting, served_stage_eq_held_iff, held]
      · simp [serveFirst, waiting, served_stage_eq_held_iff, held]

omit [DecidableEq Id] in
/-- Serving the first of a line leaves everybody in place. -/
@[simp] theorem map_id_serveFirst (line : List (Ticket Id)) :
    (serveFirst line).map (·.id) = line.map (·.id) := by
  cases line <;> simp [serveFirst]

omit [DecidableEq Id] in
/-- Who holds the lock after the first was served held it before. -/
theorem mem_of_mem_serveFirst {line : List (Ticket Id)} {ticket : Ticket Id}
    (member : ticket ∈ serveFirst line) (held : ticket.stage = .held) : ticket ∈ line := by
  cases line with
  | nil => exact member
  | cons first rest =>
      rcases List.mem_cons.mp member with here | behind
      · rw [here] at held ⊢
        have given : first.stage ≠ .queued := by
          rw [(served_stage_eq_held_iff first).mp held]
          exact Stage.noConfusion
        rw [Ticket.served_of_ne_queued given]
        exact List.mem_cons_self
      · exact List.mem_cons_of_mem _ behind

/-- Striking out an id that waits at most once leaves the others that wait, and what is older. -/
theorem diff_filter_eq {line : List Id} (distinct : line.Nodup) (older : List Id) (id : Id) :
    (line.reverse ++ older).diff (line.filter (· = id)) =
      (line.filter (· ≠ id)).reverse ++ older := by
  by_cases waits : id ∈ line
  · have once : line.filter (· = id) = [id] := by
      rw [List.filter_eq, List.count_eq_one_of_mem distinct waits]
      rfl
    have struck : line.reverse.erase id = (line.filter (· ≠ id)).reverse := by
      rw [(List.nodup_reverse.mpr distinct).erase_eq_filter, List.filter_reverse]
      congr 1
      apply List.filter_congr
      intro other _
      by_cases same : other = id
      · simp [same]
      · simp [same]
    rw [once, List.diff_cons, List.diff_nil,
      List.erase_append_left _ (List.mem_reverse.mpr waits), struck]
  · have never : line.filter (· = id) = [] := by
      apply List.filter_eq_nil_iff.mpr
      intro other member same
      exact waits (of_decide_eq_true same ▸ member)
    have all : line.filter (· ≠ id) = line := by
      apply List.filter_eq_self.mpr
      intro other member
      refine decide_eq_true fun same => waits ?_
      rw [← same]
      exact member
    rw [never, all, List.diff_nil]

/-- An acquire that leaves is struck out of the journal when it did not hold the lock yet. -/
theorem Journal.Balanced.leave {journal : Journal Id} {line : List (Ticket Id)}
    (balanced : journal.Balanced line) (distinct : (line.map (·.id)).Nodup) (ticket : Ticket Id) :
    (journal.record line (serveFirst (line.filter (·.id ≠ ticket.id)))).Balanced
      (serveFirst (line.filter (·.id ≠ ticket.id))) := by
  have nobody_new : newcomers line (serveFirst (line.filter (·.id ≠ ticket.id))) = [] := by
    apply newcomers_eq_nil
    intro other present
    have id_kept : other.id ∈ (serveFirst (line.filter (·.id ≠ ticket.id))).map (·.id) :=
      List.mem_map_of_mem present
    rw [map_id_serveFirst] at id_kept
    exact (List.filter_sublist.map _).subset id_kept
  have nobody_served : takers line (serveFirst (line.filter (·.id ≠ ticket.id))) = [] :=
    takers_eq_nil fun other present held =>
      (List.mem_filter.mp (mem_of_mem_serveFirst present held)).1
  have left : leavers line (serveFirst (line.filter (·.id ≠ ticket.id))) =
      (waiting line).filter (· = ticket.id) := by
    unfold leavers waiting
    rw [map_id_serveFirst, List.filter_map, List.filter_filter]
    congr 1
    apply List.filter_congr
    intro other present
    have gone : other.id ∉ (line.filter (·.id ≠ ticket.id)).map (·.id) ↔
        other.id = ticket.id := by
      constructor
      · intro absent
        by_cases own : other.id = ticket.id
        · exact own
        · exact absurd (List.mem_map_of_mem
            (List.mem_filter.mpr ⟨present, decide_eq_true own⟩)) absent
      · intro own found
        obtain ⟨twin, stays, same⟩ := List.mem_map.mp found
        exact of_decide_eq_true (List.mem_filter.mp stays).2 (same.trans own)
    simp only [gone, Function.comp_def, ne_eq, Bool.decide_and, Bool.and_comm]
  have stay : waiting (line.filter (·.id ≠ ticket.id)) = (waiting line).filter (· ≠ ticket.id) := by
    simp only [waiting, List.filter_map, List.filter_filter, Bool.and_comm, Function.comp_def]
  have distinct_waiting : (waiting line).Nodup := distinct.sublist (List.filter_sublist.map _)
  unfold Journal.Balanced Journal.record
  rw [nobody_new, nobody_served, left, waiting_serveFirst, stay, balanced, List.nil_append]
  exact diff_filter_eq distinct_waiting journal.served ticket.id

/-- A journal that is balanced with a line stays so when the line changes. -/
theorem Journal.Balanced.record {journal : Journal Id} {before after : List (Ticket Id)}
    (balanced : journal.Balanced before) (orderly : Orderly before)
    (distinct : (before.map (·.id)).Nodup) (change : LineChange before after) :
    (journal.record before after).Balanced after := by
  cases change with
  | same => exact balanced.same
  | join line ticket fresh stage => exact balanced.join fresh stage
  | take first rest granted => exact balanced.take granted orderly
  | leave line ticket member => exact balanced.leave distinct ticket

omit [DecidableEq Id] in
/-- On coherent locks nobody stands twice in a line. -/
theorem Coherent.nodup_map_id_line {locks : SenderLocks Id} (coherent : locks.Coherent)
    (sender : Address) : ((locks.line sender).map (·.id)).Nodup :=
  coherent.distinct_ids.sublist (List.filter_sublist.map _)

/-- After any steps the journal of a sender is balanced with the sender's line. -/
theorem balanced_journal (sender : Address) (steps : List (Step Id)) :
    (journal sender steps).Balanced ((after steps).line sender) := by
  induction steps using List.reverseRecOn with
  | nil => rfl
  | append_singleton steps step ih =>
      have coherent := coherent_after steps
      rw [journal_concat, after_concat]
      exact ih.record (coherent.orderly sender) (coherent.nodup_map_id_line sender)
        (coherent.lineChange_next step sender)

/-- Who looks at a lock finds its own ticket, looked at. -/
theorem Coherent.ticket?_poll {locks : SenderLocks Id} (coherent : locks.Coherent)
    {ticket : Ticket Id} (member : ticket ∈ locks.tickets) :
    (locks.poll ticket.id).ticket? ticket.id = some (Ticket.looked ticket) := by
  have looked : Ticket.looked ticket ∈ (locks.poll ticket.id).tickets := by
    rw [tickets_poll]
    refine List.mem_map.mpr ⟨ticket, member, ?_⟩
    rw [lookedBy, if_pos rfl]
  have found := (coherent.poll ticket.id).ticket?_eq_some looked
  rw [looked_id] at found
  exact found

omit [DecidableEq Id] in
/-- When nobody holds the lock of a line, its first has been handed it. -/
theorem Coherent.granted_of_none_held {locks : SenderLocks Id} (coherent : locks.Coherent)
    {sender : Address} {oldest : Ticket Id} {others : List (Ticket Id)}
    (shape : locks.line sender = oldest :: others)
    (free : ∀ ticket ∈ locks.line sender, ticket.stage ≠ .held) : oldest.stage = .granted := by
  have orderly := coherent.orderly sender
  rw [shape] at orderly free
  cases stage : oldest.stage with
  | queued => exact absurd stage orderly.1
  | granted => rfl
  | held => exact absurd stage (free oldest List.mem_cons_self)

/-- Who was handed the lock holds it after looking. -/
theorem Coherent.ticket?_poll_of_granted {locks : SenderLocks Id} (coherent : locks.Coherent)
    {ticket : Ticket Id} (member : ticket ∈ locks.tickets) (granted : ticket.stage = .granted) :
    (locks.poll ticket.id).ticket? ticket.id = some { ticket with stage := .held } := by
  rw [coherent.ticket?_poll member, Ticket.looked, if_pos granted]

/-- Who waits still waits after looking. -/
theorem Coherent.ticket?_poll_of_queued {locks : SenderLocks Id} (coherent : locks.Coherent)
    {ticket : Ticket Id} (member : ticket ∈ locks.tickets) (queued : ticket.stage = .queued) :
    (locks.poll ticket.id).ticket? ticket.id = some ticket := by
  have not_granted : ticket.stage ≠ .granted := by
    rw [queued]
    exact Stage.noConfusion
  rw [coherent.ticket?_poll member, Ticket.looked, if_neg not_granted]

/-- When the first of a line leaves, the next one is handed the lock. -/
theorem Coherent.line_drop_first {locks : SenderLocks Id} (coherent : locks.Coherent)
    {sender : Address} {first : Ticket Id} {others : List (Ticket Id)}
    (shape : locks.line sender = first :: others) :
    (locks.drop first.id).line sender = serveFirst others := by
  have member : first ∈ locks.line sender := by
    rw [shape]
    exact List.mem_cons_self
  obtain ⟨present, standing⟩ := mem_line.mp member
  have distinct := coherent.nodup_map_id_line sender
  rw [shape, List.map_cons, List.nodup_cons] at distinct
  have others_stay : others.filter (·.id ≠ first.id) = others := by
    apply List.filter_eq_self.mpr
    intro ticket behind
    refine decide_eq_true fun same => distinct.1 ?_
    rw [← same]
    exact List.mem_map_of_mem behind
  rw [coherent.line_drop present, if_pos standing.symm, shape,
    List.filter_cons_of_neg (by simp), others_stay]

/-- **First come, first served.** After any steps, when nobody holds the lock of a sender whose line
is not empty, a look makes its first acquire hold the lock and leaves every other one queued. An
acquire that was handed the lock and is given up before it noticed hands it to the next in line, and
leaves it to the next acquire when nobody else waits. The acquires that were started and not given up
are, in this order, those that came to hold the lock, as they came to hold it, and those that wait. -/
theorem first_come_first_served (steps : List (Step Id)) (sender : Address) :
    let locks := after steps
    (∀ oldest others, locks.line sender = oldest :: others →
      (∀ ticket ∈ locks.line sender, ticket.stage ≠ .held) →
      (locks.next (.poll oldest.id)).ticket? oldest.id = some { oldest with stage := .held } ∧
      ∀ ticket ∈ others, ticket.stage = .queued ∧
        (locks.next (.poll ticket.id)).ticket? ticket.id = some ticket) ∧
    (∀ handed others, locks.line sender = handed :: others → handed.stage = .granted →
      (∀ heir rest, others = heir :: rest →
        (locks.next (.drop handed.id)).line sender = { heir with stage := .granted } :: rest) ∧
      (others = [] → ∀ id, (locks.next (.drop handed.id)).ticket? id = none →
        ∃ ticket, ((locks.next (.drop handed.id)).next (.acquire id sender)).ticket? id =
          some ticket ∧ ticket.sender = sender ∧ ticket.stage = .held)) ∧
    (journal sender steps).started.reverse =
      (journal sender steps).served.reverse ++ waiting (locks.line sender) := by
  intro locks
  have coherent : locks.Coherent := coherent_after steps
  refine ⟨?_, ?_, ?_⟩
  · intro oldest others shape free
    have orderly := coherent.orderly sender
    have present : ∀ ticket ∈ oldest :: others, ticket ∈ locks.tickets := by
      intro ticket member
      rw [← shape] at member
      exact (mem_line.mp member).1
    rw [shape] at orderly
    refine ⟨coherent.ticket?_poll_of_granted (present oldest List.mem_cons_self)
      (coherent.granted_of_none_held shape free), ?_⟩
    intro ticket behind
    have queued := orderly.2 ticket behind
    exact ⟨queued, coherent.ticket?_poll_of_queued
      (present ticket (List.mem_cons_of_mem _ behind)) queued⟩
  · intro handed others shape granted
    have line_after := coherent.line_drop_first shape
    constructor
    · intro heir rest cons
      have queued : heir.stage = .queued := by
        have orderly := coherent.orderly sender
        rw [shape, cons] at orderly
        exact orderly.2 heir List.mem_cons_self
      simp only [next]
      rw [line_after, cons, serveFirst, Ticket.served, if_pos queued]
    · intro nobody id fresh
      rw [nobody] at line_after
      rw [next_acquire fresh]
      exact (coherent.drop handed.id).held_of_line_eq_nil fresh line_after
  · have balanced := congrArg List.reverse (balanced_journal sender steps)
    rw [List.reverse_append, List.reverse_reverse] at balanced
    exact balanced

end AccountRelay.SenderLocks
