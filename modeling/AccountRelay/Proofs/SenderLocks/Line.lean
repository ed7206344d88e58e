import AccountRelay.Proofs.Association
import AccountRelay.SenderLocks
import Mathlib.Data.List.Nodup

/-! # The line of a sender

The acquires of one sender stand in a line, in the order in which they were started
(`SenderLocks.line`). In an orderly line the first acquire has been given the lock and all others
wait (`Orderly`), so a line says who has the lock and who is next.

Locks are coherent when every line is orderly and every acquire refers to the mutex that the map
stores for its sender (`SenderLocks.Coherent`). On coherent locks each operation is described by
what it does to the lines: an acquire joins the end of its line (`Coherent.line_acquire`), and a
look changes at most one ticket (`line_poll`).
-/

namespace AccountRelay

namespace Ticket

variable {Id : Type}

/-- A ticket that is handed the lock if it waits for it. -/
def served (ticket : Ticket Id) : Ticket Id :=
  if ticket.stage = .queued then { ticket with stage := .granted } else ticket

/-- Who is handed the lock stays the same acquire. -/
@[simp] theorem served_id (ticket : Ticket Id) : ticket.served.id = ticket.id := by
  unfold served
  split <;> rfl

/-- Who has been handed the lock waits no more. -/
theorem served_stage_ne_queued (ticket : Ticket Id) : ticket.served.stage ≠ .queued := by
  unfold served
  split
  · exact Stage.noConfusion
  · assumption

/-- Who has the lock already is not handed it again. -/
theorem served_of_ne_queued {ticket : Ticket Id} (given : ticket.stage ≠ .queued) :
    ticket.served = ticket := by
  unfold served
  rw [if_neg given]

end Ticket

/-- The first ticket of a line is handed the lock if it waits for it. -/
def serveFirst {Id : Type} : List (Ticket Id) → List (Ticket Id)
  | [] => []
  | first :: rest => first.served :: rest

/-- In an orderly line the first ticket has been given the lock and all others wait. -/
def Orderly {Id : Type} : List (Ticket Id) → Prop
  | [] => True
  | first :: rest => first.stage ≠ .queued ∧ ∀ ticket ∈ rest, ticket.stage = .queued

namespace Orderly

variable {Id : Type} {line : List (Ticket Id)}

/-- An orderly line stays so when a ticket joins its end: it waits behind others, and it has the
lock when there are none. -/
theorem concat (orderly : Orderly line) (ticket : Ticket Id)
    (stage : ticket.stage = if line = [] then .held else .queued) :
    Orderly (line ++ [ticket]) := by
  cases line with
  | nil =>
      rw [if_pos rfl] at stage
      refine ⟨?_, by simp⟩
      rw [stage]
      exact Stage.noConfusion
  | cons first rest =>
      rw [if_neg (List.cons_ne_nil _ _)] at stage
      refine ⟨orderly.1, ?_⟩
      intro other member
      rcases List.mem_append.mp member with earlier | last
      · exact orderly.2 other earlier
      · rw [List.mem_singleton.mp last]
        exact stage

/-- An orderly line stays so when a change of its tickets keeps who waits. -/
theorem map (orderly : Orderly line) {change : Ticket Id → Ticket Id}
    (kept : ∀ ticket, (change ticket).stage = .queued ↔ ticket.stage = .queued) :
    Orderly (line.map change) := by
  cases line with
  | nil => trivial
  | cons first rest =>
      refine ⟨fun queued => orderly.1 ((kept first).mp queued), ?_⟩
      intro ticket member
      obtain ⟨before, earlier, rfl⟩ := List.mem_map.mp member
      exact (kept before).mpr (orderly.2 before earlier)

/-- When tickets go from an orderly line and the first that is left is served, the line is orderly
again. -/
theorem serveFirst_filter (orderly : Orderly line) (stays : Ticket Id → Bool) :
    Orderly (serveFirst (line.filter stays)) := by
  cases line with
  | nil => trivial
  | cons first rest =>
      have waiting : ∀ ticket ∈ rest.filter stays, ticket.stage = .queued :=
        fun ticket member => orderly.2 ticket (List.mem_filter.mp member).1
      by_cases first_stays : stays first = true
      · rw [List.filter_cons_of_pos first_stays]
        exact ⟨first.served_stage_ne_queued, waiting⟩
      · rw [List.filter_cons_of_neg first_stays]
        cases left : rest.filter stays with
        | nil => trivial
        | cons next others =>
            rw [left] at waiting
            exact ⟨next.served_stage_ne_queued,
              fun ticket member => waiting ticket (List.mem_cons_of_mem _ member)⟩

/-- The first of an orderly line is the only one that has been given the lock. -/
theorem eq_head {first : Ticket Id} {rest : List (Ticket Id)} (orderly : Orderly (first :: rest))
    {ticket : Ticket Id} (member : ticket ∈ first :: rest) (given : ticket.stage ≠ .queued) :
    ticket = first := by
  rcases List.mem_cons.mp member with same | behind
  · exact same
  · exact absurd (orderly.2 ticket behind) given

/-- When tickets go from an orderly line and one that has been given the lock is left, nobody has to
be served. -/
theorem serveFirst_filter_eq_self (orderly : Orderly line) {stays : Ticket Id → Bool}
    {ticket : Ticket Id} (member : ticket ∈ line.filter stays) (given : ticket.stage ≠ .queued) :
    serveFirst (line.filter stays) = line.filter stays := by
  cases line with
  | nil => rfl
  | cons first rest =>
      obtain ⟨present, ticket_stays⟩ := List.mem_filter.mp member
      rw [orderly.eq_head present given] at ticket_stays given
      rw [List.filter_cons_of_pos ticket_stays, serveFirst, Ticket.served_of_ne_queued given]

end Orderly

namespace SenderLocks

variable {Id : Type}

/-- The acquires of a sender in the order in which they were started. -/
def line (locks : SenderLocks Id) (sender : Address) : List (Ticket Id) :=
  locks.tickets.filter (·.sender = sender)

/-- In the line of a sender are the acquires of that sender. -/
theorem mem_line {locks : SenderLocks Id} {sender : Address} {ticket : Ticket Id} :
    ticket ∈ locks.line sender ↔ ticket ∈ locks.tickets ∧ ticket.sender = sender := by
  simp [line]

/-- Locks whose lines are orderly and whose acquires refer to the mutexes of the map. -/
structure Coherent (locks : SenderLocks Id) : Prop where
  /-- Each acquire has an id of its own. -/
  distinct_ids : (locks.tickets.map (·.id)).Nodup
  /-- The map has one entry a sender. -/
  distinct_senders : (locks.entries.map (·.1)).Nodup
  /-- No mutex serves two senders. -/
  distinct_mutexes : ∀ {first second : Address} {mutex : Nat},
    locks.mutex? first = some mutex → locks.mutex? second = some mutex → first = second
  /-- The map holds mutexes that have been made. -/
  made : ∀ {sender : Address} {mutex : Nat}, locks.mutex? sender = some mutex → mutex < locks.made
  /-- An acquire refers to the mutex that the map stores for its sender. -/
  stored : ∀ {ticket : Ticket Id}, ticket ∈ locks.tickets →
    locks.mutex? ticket.sender = some ticket.mutex
  orderly : ∀ sender : Address, Orderly (locks.line sender)

/-- A ticket that is found under an id is one of the tickets, and has the id. -/
theorem mem_of_ticket? [DecidableEq Id] {locks : SenderLocks Id} {id : Id} {ticket : Ticket Id}
    (found : locks.ticket? id = some ticket) : ticket ∈ locks.tickets ∧ ticket.id = id :=
  ⟨List.mem_of_find?_eq_some found, by simpa using List.find?_some found⟩

/-- No ticket is found under an id that none has. -/
theorem ticket?_eq_none_iff [DecidableEq Id] {locks : SenderLocks Id} {id : Id} :
    locks.ticket? id = none ↔ ∀ ticket ∈ locks.tickets, ticket.id ≠ id := by
  simp [ticket?]

/-- A mutex is taken when somebody who refers to it waits no more. -/
theorem isTaken_iff {locks : SenderLocks Id} {mutex : Nat} :
    locks.isTaken mutex = true ↔
      ∃ ticket ∈ locks.tickets, ticket.mutex = mutex ∧ ticket.stage ≠ .queued := by
  simp [isTaken]

namespace Coherent

variable {locks : SenderLocks Id}

/-- On coherent locks there is one ticket to an id. -/
theorem eq_of_id_eq (coherent : locks.Coherent) {first second : Ticket Id}
    (left : first ∈ locks.tickets) (right : second ∈ locks.tickets)
    (same : first.id = second.id) : first = second :=
  List.inj_on_of_nodup_map coherent.distinct_ids left right same

/-- On coherent locks every ticket is found under its id. -/
theorem ticket?_eq_some [DecidableEq Id] (coherent : locks.Coherent) {ticket : Ticket Id}
    (member : ticket ∈ locks.tickets) : locks.ticket? ticket.id = some ticket := by
  cases found : locks.ticket? ticket.id with
  | none => exact absurd rfl (ticket?_eq_none_iff.mp found ticket member)
  | some other =>
      obtain ⟨present, same⟩ := mem_of_ticket? found
      rw [coherent.eq_of_id_eq present member same]

/-- On coherent locks the acquires of a mutex are those of the sender it serves. -/
theorem mutex_eq_iff (coherent : locks.Coherent) {sender : Address} {mutex : Nat}
    (entry : locks.mutex? sender = some mutex) {ticket : Ticket Id}
    (member : ticket ∈ locks.tickets) : ticket.mutex = mutex ↔ ticket.sender = sender := by
  have own := coherent.stored member
  constructor
  · intro same
    rw [same] at own
    exact coherent.distinct_mutexes own entry
  · intro same
    rw [same, entry] at own
    exact (Option.some.inj own).symm

/-- A mutex of the map has been given to somebody exactly when the line of its sender is not
empty. -/
theorem isTaken_iff_line (coherent : locks.Coherent) {sender : Address} {mutex : Nat}
    (entry : locks.mutex? sender = some mutex) :
    locks.isTaken mutex = true ↔ locks.line sender ≠ [] := by
  rw [isTaken_iff]
  constructor
  · rintro ⟨ticket, member, same, _⟩
    exact List.ne_nil_of_mem
      (mem_line.mpr ⟨member, (coherent.mutex_eq_iff entry member).mp same⟩)
  · intro occupied
    obtain ⟨first, rest, shape⟩ := List.exists_cons_of_ne_nil occupied
    have orderly := coherent.orderly sender
    have member : first ∈ locks.line sender := by
      rw [shape]
      exact List.mem_cons_self
    obtain ⟨present, same⟩ := mem_line.mp member
    rw [shape] at orderly
    exact ⟨first, present, (coherent.mutex_eq_iff entry present).mpr same, orderly.1⟩

end Coherent

/-! ## Starting an acquire -/

/-- Looking up a mutex starts no acquire. -/
@[simp] theorem tickets_withMutex (locks : SenderLocks Id) (sender : Address) :
    (locks.withMutex sender).2.tickets = locks.tickets := by
  unfold withMutex
  split <;> rfl

/-- Looking up a mutex changes no line. -/
@[simp] theorem line_withMutex (locks : SenderLocks Id) (sender other : Address) :
    (locks.withMutex sender).2.line other = locks.line other := by
  simp [line]

/-- Looking up a sender's mutex makes one if there is none, and no other entry changes. -/
theorem mutex?_withMutex (locks : SenderLocks Id) (sender other : Address) :
    (locks.withMutex sender).2.mutex? other =
      if other = sender then some (locks.withMutex sender).1 else locks.mutex? other := by
  unfold withMutex
  split
  · rename_i mutex known
    split
    · rename_i same
      rw [same, known]
    · rfl
  · rename_i absent
    exact Association.lookup_concat absent locks.made other

/-- A new acquire is one more ticket, with the mutex of its sender, which it gets at once if nobody has
it. -/
theorem acquire_eq [DecidableEq Id] (locks : SenderLocks Id) (id : Id) (sender : Address) :
    locks.acquire id sender =
      { (locks.withMutex sender).2 with
        tickets := locks.tickets ++
          [{ id, sender, mutex := (locks.withMutex sender).1,
             stage := if (locks.withMutex sender).2.isTaken (locks.withMutex sender).1 then .queued
               else .held }] } := by
  simp [acquire]

namespace Coherent

variable {locks : SenderLocks Id}

/-- Making a mutex keeps locks coherent: it has a new name, and nobody refers to it yet. -/
theorem withMutex (coherent : locks.Coherent) (sender : Address) :
    (locks.withMutex sender).2.Coherent := by
  cases entry : locks.mutex? sender with
  | some mutex =>
      simp only [SenderLocks.withMutex, entry]
      exact coherent
  | none =>
      have unknown : ∀ other, (locks.withMutex sender).2.mutex? other =
          if other = sender then some locks.made else locks.mutex? other := by
        intro other
        rw [mutex?_withMutex]
        simp only [SenderLocks.withMutex, entry]
      have count : (locks.withMutex sender).2.made = locks.made + 1 := by
        simp only [SenderLocks.withMutex, entry]
      exact {
        distinct_ids := by simpa using coherent.distinct_ids
        distinct_senders := by
          have absent : ∀ pair ∈ locks.entries, pair.1 ≠ sender := by
            intro pair member same
            have none_known := List.lookup_eq_none_iff.mp entry pair member
            simp [same] at none_known
          simp only [SenderLocks.withMutex, entry, List.map_append, List.map_cons, List.map_nil]
          refine List.nodup_append.mpr ⟨coherent.distinct_senders, by simp, ?_⟩
          intro first known second new
          obtain ⟨pair, member, rfl⟩ := List.mem_map.mp known
          rw [List.mem_singleton.mp new]
          exact absent pair member
        distinct_mutexes := by
          intro first second mutex known other_known
          rw [unknown] at known other_known
          -- the new mutex has a number above those that are stored
          by_cases left : first = sender <;> by_cases right : second = sender
          · rw [left, right]
          · rw [if_pos left] at known
            rw [if_neg right] at other_known
            exact absurd (Option.some.inj known).symm (Nat.ne_of_lt (coherent.made other_known))
          · rw [if_neg left] at known
            rw [if_pos right] at other_known
            exact absurd (Option.some.inj other_known).symm (Nat.ne_of_lt (coherent.made known))
          · rw [if_neg left] at known
            rw [if_neg right] at other_known
            exact coherent.distinct_mutexes known other_known
        made := by
          intro other mutex known
          rw [unknown] at known
          rw [count]
          split at known
          · rw [← Option.some.inj known]
            exact Nat.lt_succ_self _
          · exact Nat.lt_succ_of_lt (coherent.made known)
        stored := by
          intro ticket member
          rw [tickets_withMutex] at member
          have own := coherent.stored member
          rw [unknown, if_neg, own]
          intro same
          rw [same, entry] at own
          cases own
        orderly := fun other => by simpa using coherent.orderly other }

/-- An acquire joins the end of its sender's line: it has the lock when the line was empty, and it
waits otherwise. -/
theorem line_acquire [DecidableEq Id] (coherent : locks.Coherent) (id : Id)
    (sender other : Address) :
    (locks.acquire id sender).line other =
      if other = sender then
        locks.line sender ++
          [{ id, sender, mutex := (locks.withMutex sender).1,
             stage := if locks.line sender = [] then .held else .queued }]
      else locks.line other := by
  have entry := mutex?_withMutex locks sender sender
  rw [if_pos rfl] at entry
  have taken := (coherent.withMutex sender).isTaken_iff_line entry
  rw [line_withMutex] at taken
  rw [acquire_eq]
  by_cases same : other = sender
  · subst same
    by_cases empty : locks.line other = []
    · have free : ¬(locks.withMutex other).2.isTaken (locks.withMutex other).1 = true :=
        fun given => taken.mp given empty
      rw [if_neg free, if_pos rfl, if_pos empty]
      simp [line]
    · rw [if_pos (taken.mpr empty), if_pos rfl, if_neg empty]
      simp [line]
  · rw [if_neg same]
    simp [line, Ne.symm same]

end Coherent

/-- Locks stay coherent when an acquire is started under a fresh id. -/
theorem Coherent.acquire [DecidableEq Id] {locks : SenderLocks Id} (coherent : locks.Coherent)
    {id : Id} (fresh : locks.ticket? id = none) (sender : Address) :
    (locks.acquire id sender).Coherent := by
  have known := coherent.withMutex sender
  have map_eq : ∀ other, (locks.acquire id sender).mutex? other =
      (locks.withMutex sender).2.mutex? other := by
    intro other
    rw [acquire_eq]
    rfl
  exact {
    distinct_ids := by
      rw [acquire_eq, List.map_append]
      refine List.nodup_append.mpr ⟨coherent.distinct_ids, by simp, ?_⟩
      intro first used second new
      obtain ⟨ticket, member, rfl⟩ := List.mem_map.mp used
      rw [List.mem_singleton.mp new]
      exact ticket?_eq_none_iff.mp fresh ticket member
    distinct_senders := by
      rw [acquire_eq]
      exact known.distinct_senders
    distinct_mutexes := by
      intro first second mutex left right
      rw [map_eq] at left right
      exact known.distinct_mutexes left right
    made := by
      intro other mutex entry
      rw [map_eq] at entry
      rw [acquire_eq]
      exact known.made entry
    stored := by
      intro ticket member
      rw [map_eq]
      rw [acquire_eq] at member
      rcases List.mem_append.mp member with earlier | new
      · rw [← tickets_withMutex locks sender] at earlier
        exact known.stored earlier
      · rw [List.mem_singleton.mp new, mutex?_withMutex, if_pos rfl]
    orderly := by
      intro other
      rw [coherent.line_acquire]
      split
      · exact (coherent.orderly sender).concat _ rfl
      · exact coherent.orderly other }

/-! ## Looking -/

/-- Who looks stays the same acquire. -/
theorem looked_id (ticket : Ticket Id) : (Ticket.looked ticket).id = ticket.id := by
  unfold Ticket.looked
  split <;> rfl

/-- Who looks stays with the sender. -/
theorem looked_sender (ticket : Ticket Id) :
    (Ticket.looked ticket).sender = ticket.sender := by
  unfold Ticket.looked
  split <;> rfl

/-- Who looks stays with the mutex. -/
theorem looked_mutex (ticket : Ticket Id) : (Ticket.looked ticket).mutex = ticket.mutex := by
  unfold Ticket.looked
  split <;> rfl

/-- Who waits goes on waiting after a look of its own, and nobody else begins to. -/
theorem looked_stage_eq_queued_iff (ticket : Ticket Id) :
    (Ticket.looked ticket).stage = .queued ↔ ticket.stage = .queued := by
  unfold Ticket.looked
  split
  · rename_i granted
    simp [granted]
  · rfl

variable [DecidableEq Id]

/-- A look of one acquire at a ticket: another one's stays as it is. -/
def lookedBy (id : Id) (ticket : Ticket Id) : Ticket Id :=
  if ticket.id = id then Ticket.looked ticket else ticket

/-- A look of anybody leaves a ticket its id. -/
@[simp] theorem lookedBy_id (id : Id) (ticket : Ticket Id) :
    (lookedBy id ticket).id = ticket.id := by
  unfold lookedBy
  split
  · exact looked_id ticket
  · rfl

/-- A look of anybody leaves a ticket with its sender. -/
@[simp] theorem lookedBy_sender (id : Id) (ticket : Ticket Id) :
    (lookedBy id ticket).sender = ticket.sender := by
  unfold lookedBy
  split
  · exact looked_sender ticket
  · rfl

/-- A look of anybody leaves a ticket with its mutex. -/
@[simp] theorem lookedBy_mutex (id : Id) (ticket : Ticket Id) :
    (lookedBy id ticket).mutex = ticket.mutex := by
  unfold lookedBy
  split
  · exact looked_mutex ticket
  · rfl

/-- Nobody is handed a lock by a look, nor put back into the line. -/
theorem lookedBy_stage_eq_queued_iff (id : Id) (ticket : Ticket Id) :
    (lookedBy id ticket).stage = .queued ↔ ticket.stage = .queued := by
  unfold lookedBy
  split
  · exact looked_stage_eq_queued_iff ticket
  · rfl

/-- A look changes the tickets one by one. -/
@[simp] theorem tickets_poll (locks : SenderLocks Id) (id : Id) :
    (locks.poll id).tickets = locks.tickets.map (lookedBy id) := rfl

/-- A look changes at most the ticket of the acquire that looks. -/
theorem line_poll (locks : SenderLocks Id) (id : Id) (sender : Address) :
    (locks.poll id).line sender = (locks.line sender).map (lookedBy id) := by
  unfold line
  rw [tickets_poll, List.filter_map]
  congr 1
  apply List.filter_congr
  intro ticket _
  simp

/-- Locks stay coherent when an acquire looks. -/
theorem Coherent.poll {locks : SenderLocks Id} (coherent : locks.Coherent) (id : Id) :
    (locks.poll id).Coherent := by
  refine ⟨?_, coherent.distinct_senders, coherent.distinct_mutexes, coherent.made, ?_, ?_⟩
  · have ids : (locks.poll id).tickets.map (·.id) = locks.tickets.map (·.id) := by
      simp [List.map_map, Function.comp_def]
    rw [ids]
    exact coherent.distinct_ids
  · intro ticket member
    rw [tickets_poll] at member
    obtain ⟨before, earlier, rfl⟩ := List.mem_map.mp member
    rw [lookedBy_sender, lookedBy_mutex]
    exact coherent.stored earlier
  · intro sender
    rw [line_poll]
    exact (coherent.orderly sender).map (lookedBy_stage_eq_queued_iff id)

end SenderLocks

end AccountRelay
