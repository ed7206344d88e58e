import AccountRelay.Proofs.SenderLocks.Exclusion
import Mathlib.Data.List.Dedup
import Mathlib.Data.List.Perm.Subperm

/-! # Entries of the map

The map keeps an entry for every sender in flight, that is, for every sender of whom somebody holds
or awaits the lock. Who gives back a held lock tidies the map, and who gives up an acquire that does
not hold its lock yet leaves without doing so (`tidied?`). So a sender that is not in flight has an
entry exactly when the last to leave its line did not tidy up (`entry_iff_inFlight_or_untidied`). As
long as nobody gives up, the entries are those of the senders in flight and no others.
-/

namespace AccountRelay.SenderLocks

variable {Id : Type} [DecidableEq Id]

/-- Somebody holds or awaits the lock of a sender. -/
def InFlight (locks : SenderLocks Id) (sender : Address) : Prop :=
  ∃ ticket ∈ locks.tickets, ticket.sender = sender

instance (locks : SenderLocks Id) (sender : Address) : Decidable (locks.InFlight sender) :=
  inferInstanceAs (Decidable (∃ ticket ∈ locks.tickets, ticket.sender = sender))

/-- The senders in flight, each of them once. -/
def inFlight (locks : SenderLocks Id) : List Address :=
  (locks.tickets.map (·.sender)).dedup

/-- Whether a step tidies the map for a sender: yes when it tidies, no when an acquire of the sender
leaves and does not tidy, and nothing when it does neither. -/
def tidied? (locks : SenderLocks Id) (sender : Address) : Step Id → Option Bool
  | .acquire _ _ | .poll _ => none
  | .drop id =>
    match locks.ticket? id with
    | some ticket => if ticket.sender = sender then some (decide (ticket.stage = .held)) else none
    | none => none
  | .release id =>
    match locks.ticket? id with
    | some ticket => if ticket.sender = sender then some false else none
    | none => none
  | .tidy other => if other = sender then some true else none

/-- The locks, and whether the map was left tidy for a sender, after a step. -/
def nextWithTidiness (sender : Address) : SenderLocks Id × Bool → Step Id → SenderLocks Id × Bool
  | (locks, tidy), step => (locks.next step, (locks.tidied? sender step).getD tidy)

/-- Whether the last to leave the line of a sender tidied up, or somebody has since. -/
def tidied (sender : Address) (steps : List (Step Id)) : Bool :=
  (steps.foldl (nextWithTidiness sender) ({}, true)).2

/-- The last step of a run decides whether the sender is tidied, if it says anything about that. -/
theorem tidied_concat (sender : Address) (steps : List (Step Id)) (step : Step Id) :
    tidied sender (steps ++ [step]) =
      ((after steps).tidied? sender step).getD (tidied sender steps) := by
  have locks_eq : (steps.foldl (nextWithTidiness sender) ({}, true)).1 = after steps := by
    induction steps using List.reverseRecOn with
    | nil => rfl
    | append_singleton steps step ih =>
        rw [List.foldl_concat, after_concat, ← ih]
        rfl
  unfold tidied
  rw [List.foldl_concat, ← locks_eq]
  rfl

omit [DecidableEq Id] in
/-- A sender is in flight exactly when its line is not empty. -/
theorem inFlight_iff_line {locks : SenderLocks Id} {sender : Address} :
    locks.InFlight sender ↔ locks.line sender ≠ [] := by
  constructor
  · rintro ⟨ticket, member, same⟩
    exact List.ne_nil_of_mem (mem_line.mpr ⟨member, same⟩)
  · intro occupied
    obtain ⟨first, rest, shape⟩ := List.exists_cons_of_ne_nil occupied
    have member : first ∈ locks.line sender := by
      rw [shape]
      exact List.mem_cons_self
    exact ⟨first, mem_line.mp member⟩

omit [DecidableEq Id] in
/-- The senders listed as in flight are those that are. -/
theorem mem_inFlight {locks : SenderLocks Id} {sender : Address} :
    sender ∈ locks.inFlight ↔ locks.InFlight sender := by
  simp [inFlight, InFlight]

omit [DecidableEq Id] in
/-- The senders with an entry are those with a mutex in the map. -/
theorem mem_map_fst_entries {locks : SenderLocks Id} {sender : Address} :
    sender ∈ locks.entries.map (·.1) ↔ ∃ mutex, locks.mutex? sender = some mutex := by
  rw [← Option.ne_none_iff_exists', ne_eq, mutex?, List.lookup_eq_none_iff]
  simp only [List.mem_map, bne_iff_ne, ne_eq, not_forall, Decidable.not_not, exists_prop]
  constructor
  · rintro ⟨entry, member, rfl⟩
    exact ⟨entry, member, rfl⟩
  · rintro ⟨entry, member, same⟩
    exact ⟨entry, member, same.symm⟩

/-! ## What a step does to an entry -/

omit [DecidableEq Id] in
/-- A sender in flight has an entry. -/
theorem Coherent.exists_mutex? {locks : SenderLocks Id} (coherent : locks.Coherent)
    {sender : Address} (inFlight : locks.InFlight sender) :
    ∃ mutex, locks.mutex? sender = some mutex := by
  obtain ⟨ticket, member, rfl⟩ := inFlight
  exact ⟨ticket.mutex, coherent.stored member⟩

omit [DecidableEq Id] in
/-- After tidying, a sender has an entry exactly when it is in flight. -/
theorem Coherent.exists_mutex?_tidy_iff {locks : SenderLocks Id} (coherent : locks.Coherent)
    (sender : Address) :
    (∃ mutex, (locks.tidy sender).mutex? sender = some mutex) ↔
      (locks.tidy sender).InFlight sender := by
  refine ⟨?_, (coherent.tidy sender).exists_mutex?⟩
  rintro ⟨mutex, entry⟩
  rw [mutex?_tidy] at entry
  split at entry
  · cases entry
  · rename_i used
    have referred : ∃ ticket ∈ locks.tickets, locks.mutex? sender = some ticket.mutex := by
      by_contra nobody
      exact used ⟨rfl, fun ticket member same => nobody ⟨ticket, member, same⟩⟩
    obtain ⟨ticket, member, same⟩ := referred
    rw [InFlight, tickets_tidy]
    exact ⟨ticket, member, coherent.distinct_mutexes (coherent.stored member) same⟩

omit [DecidableEq Id] in
/-- Tidying for one sender leaves the entries of all others. -/
theorem mutex?_tidy_of_ne (locks : SenderLocks Id) {sender other : Address}
    (elsewhere : other ≠ sender) : (locks.tidy other).mutex? sender = locks.mutex? sender := by
  rw [mutex?_tidy, if_neg]
  rintro ⟨same, -⟩
  exact elsewhere same.symm

/-- To acquire makes an entry for its own sender and leaves the others' entries. -/
theorem mutex?_acquire (locks : SenderLocks Id) (id : Id) (sender other : Address) :
    (locks.acquire id sender).mutex? other =
      if other = sender then some (locks.withMutex sender).1 else locks.mutex? other := by
  rw [acquire_eq, ← mutex?_withMutex]
  rfl

/-- Whoever acquires is in flight from then on. -/
theorem Coherent.inFlight_acquire {locks : SenderLocks Id} (coherent : locks.Coherent) (id : Id)
    (sender : Address) : (locks.acquire id sender).InFlight sender := by
  rw [inFlight_iff_line, coherent.line_acquire, if_pos rfl]
  simp

/-- What can become of the entry of a sender in a step, given whether the step tidies the map for
it. -/
inductive EntryChange (before after : SenderLocks Id) (sender : Address) : Option Bool → Prop
  /-- The step is about other senders, or takes nobody in or out. -/
  | kept (entry : after.mutex? sender = before.mutex? sender)
      (flight : after.InFlight sender ↔ before.InFlight sender) :
      EntryChange before after sender none
  /-- An acquire of the sender was started. -/
  | joined (flight : after.InFlight sender) : EntryChange before after sender none
  /-- An acquire of the sender left and did not tidy. -/
  | abandoned (entry : ∃ mutex, after.mutex? sender = some mutex) :
      EntryChange before after sender (some false)
  | tidied (entry : (∃ mutex, after.mutex? sender = some mutex) ↔ after.InFlight sender) :
      EntryChange before after sender (some true)

omit [DecidableEq Id] in
/-- A step that keeps a sender's entry and line changes nothing for it. -/
theorem EntryChange.of_line_eq {before after : SenderLocks Id} {sender : Address}
    (entry : after.mutex? sender = before.mutex? sender)
    (line_eq : after.line sender = before.line sender) : EntryChange before after sender none := by
  refine .kept entry ?_
  rw [inFlight_iff_line, inFlight_iff_line, line_eq]

/-- A ticket that is released leaves its entry behind, and touches no other. -/
theorem Coherent.entryChange_release {locks : SenderLocks Id} (coherent : locks.Coherent)
    {ticket : Ticket Id} (member : ticket ∈ locks.tickets) (sender : Address) :
    EntryChange locks (locks.release ticket) sender
      (if ticket.sender = sender then some false else none) := by
  have entry := mutex?_release locks ticket sender
  split
  · rename_i own
    subst own
    refine .abandoned ⟨ticket.mutex, ?_⟩
    rw [entry, coherent.stored member]
  · rename_i elsewhere
    refine .of_line_eq entry ?_
    rw [coherent.line_release member, if_neg (Ne.symm elsewhere)]

omit [DecidableEq Id] in
/-- Tidying a sender leaves an entry for it only while it is in flight. -/
theorem Coherent.entryChange_tidy {locks : SenderLocks Id} (coherent : locks.Coherent)
    (other sender : Address) :
    EntryChange locks (locks.tidy other) sender (if other = sender then some true else none) := by
  split
  · rename_i own
    subst own
    exact .tidied (coherent.exists_mutex?_tidy_iff other)
  · rename_i elsewhere
    exact .of_line_eq (mutex?_tidy_of_ne locks elsewhere) (line_tidy locks other sender)

/-- A guard dropped while it was held tidies its sender, and one dropped while it waited does not. -/
theorem Coherent.entryChange_drop {locks : SenderLocks Id} (coherent : locks.Coherent)
    {id : Id} {ticket : Ticket Id} (found : locks.ticket? id = some ticket) (sender : Address) :
    EntryChange locks (locks.drop id) sender
      (if ticket.sender = sender then some (decide (ticket.stage = .held)) else none) := by
  have member := (mem_of_ticket? found).1
  have released := coherent.entryChange_release member sender
  simp only [SenderLocks.drop, found]
  by_cases held : ticket.stage = .held
  · rw [if_pos held, decide_eq_true held]
    have tidied := (coherent.release member).entryChange_tidy ticket.sender sender
    by_cases own : ticket.sender = sender
    · rw [if_pos own] at tidied ⊢
      cases tidied with
      | tidied entry => exact .tidied entry
    · refine (if_neg own).symm ▸ .of_line_eq ?_ ?_
      · rw [mutex?_tidy_of_ne _ own, mutex?_release]
      · rw [line_tidy, coherent.line_release member, if_neg (Ne.symm own)]
  · rw [if_neg held, decide_eq_false held]
    exact released

/-- To acquire is no change that a sender's tidiness depends on. -/
theorem Coherent.entryChange_acquire {locks : SenderLocks Id} (coherent : locks.Coherent) (id : Id)
    (other sender : Address) : EntryChange locks (locks.acquire id other) sender none := by
  by_cases own : sender = other
  · subst own
    exact .joined (coherent.inFlight_acquire id sender)
  · refine .of_line_eq ?_ ?_
    · rw [mutex?_acquire, if_neg own]
    · rw [coherent.line_acquire, if_neg own]

/-- **What a step does to an entry.** It is the same for every kind of step and every sender. -/
theorem Coherent.entryChange_next {locks : SenderLocks Id} (coherent : locks.Coherent)
    (step : Step Id) (sender : Address) :
    EntryChange locks (locks.next step) sender (locks.tidied? sender step) := by
  cases step with
  | acquire id other =>
      simp only [SenderLocks.next, tidied?]
      split
      · exact .of_line_eq rfl rfl
      · exact coherent.entryChange_acquire id other sender
  | poll id =>
      refine .kept rfl ?_
      simp only [SenderLocks.next]
      rw [inFlight_iff_line, inFlight_iff_line, line_poll, ne_eq, List.map_eq_nil_iff]
  | drop id =>
      simp only [SenderLocks.next, tidied?]
      cases found : locks.ticket? id with
      | none =>
          have unchanged : locks.drop id = locks := by simp only [SenderLocks.drop, found]
          rw [unchanged]
          exact .of_line_eq rfl rfl
      | some ticket => exact coherent.entryChange_drop found sender
  | release id =>
      simp only [SenderLocks.next, tidied?]
      cases found : locks.ticket? id with
      | none => exact .of_line_eq rfl rfl
      | some ticket => exact coherent.entryChange_release (mem_of_ticket? found).1 sender
  | tidy other => exact coherent.entryChange_tidy other sender

/-! ## The entries after any steps -/

/-- After any steps a sender has an entry exactly when it is in flight or was left untidily. -/
theorem exists_mutex?_after_iff (steps : List (Step Id)) (sender : Address) :
    (∃ mutex, (after steps).mutex? sender = some mutex) ↔
      (after steps).InFlight sender ∨ tidied sender steps = false := by
  induction steps using List.reverseRecOn with
  | nil =>
      constructor
      · rintro ⟨mutex, entry⟩
        cases entry
      · rintro (⟨ticket, member, -⟩ | untidied)
        · exact absurd member List.not_mem_nil
        · cases untidied
  | append_singleton steps step ih =>
      have coherent := coherent_after steps
      have change := coherent.entryChange_next step sender
      rw [tidied_concat, after_concat]
      -- Only a step by which somebody leaves the sender's line can end or keep an entry of nobody.
      cases reported : (after steps).tidied? sender step with
      | none =>
          rw [reported] at change
          cases change with
          | kept entry flight =>
              rw [entry, flight]
              exact ih
          | joined flight =>
              exact ⟨fun _ => .inl flight, fun _ => (coherent.next step).exists_mutex? flight⟩
      | some tidy =>
          rw [reported] at change
          cases change with
          | abandoned entry => exact ⟨fun _ => .inr rfl, fun _ => entry⟩
          | tidied entry => exact entry.trans (by simp)

/-- As long as every acquire that leaves tidies up, all senders are tidied. -/
theorem tidied_of_forall (steps : List (Step Id)) (sender : Address)
    (careful : ∀ earlier step later, steps = earlier ++ step :: later →
      (after earlier).tidied? sender step ≠ some false) : tidied sender steps = true := by
  induction steps using List.reverseRecOn with
  | nil => rfl
  | append_singleton steps step ih =>
      rw [tidied_concat]
      have before := ih fun earlier next later shape =>
        careful earlier next (later ++ [step]) (by rw [shape]; simp)
      cases reported : (after steps).tidied? sender step with
      | none => exact before
      | some tidy =>
          cases tidy with
          | true => rfl
          | false => exact absurd reported (careful steps step [] rfl)

omit [DecidableEq Id] in
/-- The senders in flight are among those with an entry. -/
theorem Coherent.inFlight_subperm {locks : SenderLocks Id} (coherent : locks.Coherent) :
    locks.inFlight.Subperm (locks.entries.map (·.1)) := by
  refine (List.nodup_dedup _).subperm ?_
  intro sender member
  exact mem_map_fst_entries.mpr (coherent.exists_mutex? (mem_inFlight.mp member))

omit [DecidableEq Id] in
/-- There are as many entries as senders in flight exactly when every entry is of one of them. -/
theorem Coherent.size_eq_iff {locks : SenderLocks Id} (coherent : locks.Coherent) :
    locks.size = locks.inFlight.length ↔
      ∀ sender, (∃ mutex, locks.mutex? sender = some mutex) → locks.InFlight sender := by
  have size_eq : locks.size = (locks.entries.map (·.1)).length := (List.length_map _).symm
  rw [size_eq]
  constructor
  · intro same sender entry
    have all := coherent.inFlight_subperm.perm_of_length_le (Nat.le_of_eq same)
    exact mem_inFlight.mp (all.mem_iff.mpr (mem_map_fst_entries.mpr entry))
  · intro only
    have known : (locks.entries.map (·.1)).Subperm locks.inFlight := by
      refine coherent.distinct_senders.subperm ?_
      intro sender member
      exact mem_inFlight.mpr (only sender (mem_map_fst_entries.mp member))
    exact Nat.le_antisymm known.length_le coherent.inFlight_subperm.length_le

/-- **Entries of the map.** After any steps a sender has an entry exactly when somebody holds or
awaits its lock, or the last to leave its line did not tidy up and nobody has since. The entries are
as many as the senders in flight exactly when no sender is left that way, and when nobody is left in
any line the map is empty exactly then. No sender is left that way as long as nobody gives up an
acquire that does not hold its lock yet. -/
theorem entry_iff_inFlight_or_untidied (steps : List (Step Id)) :
    let locks := after steps
    (∀ sender, (∃ mutex, locks.mutex? sender = some mutex) ↔
      locks.InFlight sender ∨ tidied sender steps = false) ∧
    (locks.size = locks.inFlight.length ↔
      ∀ sender, tidied sender steps = false → locks.InFlight sender) ∧
    (locks.tickets = [] → (locks.entries = [] ↔ ∀ sender, tidied sender steps = true)) ∧
    ∀ sender, (∀ earlier step later, steps = earlier ++ step :: later →
      (after earlier).tidied? sender step ≠ some false) → tidied sender steps = true := by
  intro locks
  have coherent : locks.Coherent := coherent_after steps
  have entries := exists_mutex?_after_iff steps
  refine ⟨entries, ?_, ?_, tidied_of_forall steps⟩
  · rw [coherent.size_eq_iff]
    constructor
    · intro only sender untidied
      exact only sender ((entries sender).mpr (.inr untidied))
    · intro only sender entry
      exact ((entries sender).mp entry).elim id (only sender)
  · intro nobody
    have idle : ∀ sender, ¬ locks.InFlight sender := by
      rintro sender ⟨ticket, member, -⟩
      rw [nobody] at member
      exact absurd member List.not_mem_nil
    have empty : locks.entries = [] ↔ ∀ sender, ¬ ∃ mutex, locks.mutex? sender = some mutex := by
      simp only [← mem_map_fst_entries]
      rw [← List.map_eq_nil_iff (f := (·.1)), List.eq_nil_iff_forall_not_mem]
    rw [empty]
    apply forall_congr'
    intro sender
    rw [entries sender, or_iff_right (idle sender), Bool.not_eq_false]

/-- An acquire that was handed the lock and is given up before it noticed leaves an entry that is
nobody's: nobody is left in any line, and the map is not empty. -/
theorem entry_of_nobody :
    let sender : Address := .filled 20 0x01
    let locks := after [.acquire 0 sender, .acquire 1 sender, .drop 0, .drop (1 : Nat)]
    ¬ ((∃ mutex, locks.mutex? sender = some mutex) ↔ locks.InFlight sender) ∧
    ¬ locks.size ≤ locks.inFlight.length ∧ locks.tickets = [] ∧ locks.entries ≠ [] := by
  intro sender locks
  have entry : locks.mutex? sender = some 0 := by decide
  have idle : ¬ locks.InFlight sender := by decide
  exact ⟨fun only => idle (only.mp ⟨0, entry⟩), by decide, by decide, by decide⟩

end AccountRelay.SenderLocks
