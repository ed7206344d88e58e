import AccountRelay.Proofs.Concurrency.History

/-! # Nonces of accepted operations

The entry point counts the operations of each sender. A count explains a history when it never goes
back, when each nonce that was read is a count between question and answer, and when each accepted
operation makes the count of its sender advance (`Explains`). In a legal history with such a count a
run that knows a nonce knows a greater one than any operation of the sender that was accepted
(`lt_of_informed`). So the nonces of the operations accepted for one sender only grow
(`accepted_pairwise`).
-/

namespace AccountRelay

/-- The nonce of an operation that was accepted for a sender. -/
def Act.accepted? (sender : Address) : Act → Option Uint256
  | .answered (.send operation _) (.ok _) =>
    if operation.sender = sender then some operation.nonce else none
  | _ => none

namespace History

variable {Id : Type}

/-- The nonces of the operations accepted for a sender, latest first. -/
def accepted (sender : Address) (history : History Id) : List Uint256 :=
  history.filterMap fun event => event.act.accepted? sender

/-- A question of a run and its answer, the first with `start` events before it and the second the
last of `finish` events. -/
def Exchange (history : History Id) (run : Id) (request : ServiceRequest) (reply : request.Answer)
    (start finish : Nat) : Prop :=
  ∃ later during before : History Id,
    history = later ++ ⟨run, .answered request reply⟩ :: (during ++ ⟨run, .asked request⟩ :: before) ∧
    (∀ event ∈ during, event.run ≠ run) ∧
    start = before.length ∧ finish = during.length + before.length + 2

/-- A count of operations, by the number of events so far and the sender, that explains the nonces
that were read and advances with each accepted operation. -/
structure Explains (count : Nat → Address → Nat) (history : History Id) : Prop where
  grows : ∀ {earlier later : Nat} (sender : Address), earlier ≤ later →
    count earlier sender ≤ count later sender
  reads : ∀ {run : Id} {sender : Address} {nonce : Uint256} {start finish : Nat},
    history.Exchange run (.nonce sender) (.ok nonce) start finish →
    count start sender ≤ nonce.toNat ∧ nonce.toNat ≤ count finish sender
  advances : ∀ {run : Id} {operation : Operation} {entryPoint : Address} {hash : Hash}
    {start finish : Nat}, history.Exchange run (.send operation entryPoint) (.ok hash) start finish →
    count start operation.sender < count finish operation.sender

/-- An exchange of a history stays one, in the same places, when an event follows. -/
theorem Exchange.cons {history : History Id} {run : Id} {request : ServiceRequest}
    {reply : request.Answer} {start finish : Nat}
    (exchange : Exchange history run request reply start finish) (event : Event Id) :
    Exchange (event :: history) run request reply start finish := by
  obtain ⟨later, during, before, rfl, others, times⟩ := exchange
  exact ⟨event :: later, during, before, rfl, others, times⟩

/-- A count that explains a history explains it without its last event. -/
theorem Explains.tail {count : Nat → Address → Nat} {event : Event Id} {history : History Id}
    (explains : Explains count (event :: history)) : Explains count history where
  grows := explains.grows
  reads exchange := explains.reads (exchange.cons event)
  advances exchange := explains.advances (exchange.cons event)

/-- A count that explains a history explains each of its beginnings. -/
theorem Explains.of_append {count : Nat → Address → Nat} {later history : History Id}
    (explains : Explains count (later ++ history)) : Explains count history := by
  induction later with
  | nil => exact explains
  | cons event later ih => exact ih explains.tail

/-- An event that takes no operation of the sender leaves the accepted nonces. -/
theorem accepted_cons_of_none {event : Event Id} {sender : Address}
    (other : event.act.accepted? sender = none) (history : History Id) :
    accepted sender (event :: history) = accepted sender history :=
  List.filterMap_cons_none other

/-- An event that takes an operation of the sender adds its nonce in front. -/
theorem accepted_cons_of_some {event : Event Id} {sender : Address} {nonce : Uint256}
    (taken : event.act.accepted? sender = some nonce) (history : History Id) :
    accepted sender (event :: history) = nonce :: accepted sender history :=
  List.filterMap_cons_some taken

/-- A nonce is accepted by the newest event or was accepted before. -/
theorem mem_accepted_cons {event : Event Id} {history : History Id} {sender : Address}
    {nonce : Uint256} : nonce ∈ accepted sender (event :: history) ↔
      event.act.accepted? sender = some nonce ∨ nonce ∈ accepted sender history := by
  simp [accepted]

/-- A nonce is accepted only with an operation that is sent for its sender and answered with a hash. -/
theorem exists_of_accepted? {act : Act} {sender : Address} {nonce : Uint256}
    (taken : act.accepted? sender = some nonce) :
    ∃ operation entryPoint hash,
      act = .answered (.send operation entryPoint) (.ok hash : Except Failure Hash) ∧
        operation.ActsFor sender nonce := by
  unfold Act.accepted? at taken
  split at taken
  · rename_i operation entryPoint hash
    split at taken
    · rename_i mine
      exact ⟨operation, entryPoint, hash, rfl, mine, Option.some.inj taken⟩
    · cases taken
  · cases taken

/-- To take an operation of a sender is an act that concerns that sender. -/
theorem concerns_of_accepted? {act : Act} {sender : Address} {nonce : Uint256}
    (taken : act.accepted? sender = some nonce) : act.Concerns sender := by
  obtain ⟨operation, entryPoint, hash, rfl, acts⟩ := exists_of_accepted? taken
  exact acts.1

/-- Nothing is accepted for a sender in events that do not concern it. -/
theorem accepted_append {during before : History Id} {sender : Address}
    (quiet : ∀ event ∈ during, ¬ event.act.Concerns sender) :
    accepted sender (during ++ before) = accepted sender before := by
  induction during with
  | nil => rfl
  | cons event during ih =>
      rw [List.cons_append, accepted_cons_of_none, ih]
      · exact fun event member => quiet event (List.mem_cons_of_mem _ member)
      · cases taken : event.act.accepted? sender with
        | none => rfl
        | some nonce => exact absurd (concerns_of_accepted? taken) (quiet event List.mem_cons_self)

variable [DecidableEq Id]

/-- A run that waits for an answer has asked, and has done nothing since. -/
theorem exists_of_pending {history : History Id} {run : Id} {request : ServiceRequest}
    (waits : history.pending run = some request) :
    ∃ during before, history = during ++ ⟨run, .asked request⟩ :: before ∧
      ∀ event ∈ during, event.run ≠ run := by
  induction history with
  | nil => cases waits
  | cons event history ih =>
      by_cases own : event.run = run
      · obtain ⟨_, act⟩ := event
        subst own
        cases act with
        | asked asked =>
            rw [pending_cons_asked] at waits
            obtain rfl := Option.some.inj waits
            exact ⟨[], history, rfl, fun _ member => absurd member List.not_mem_nil⟩
        | answered asked reply =>
            rw [pending_cons_answered] at waits
            cases waits
      · rw [pending_cons_of_ne own] at waits
        obtain ⟨during, before, rfl, others⟩ := ih waits
        refine ⟨event :: during, before, rfl, ?_⟩
        intro other member
        rcases List.mem_cons.mp member with rfl | earlier
        · exact own
        · exact others other earlier

namespace Legal

variable {count : Nat → Address → Nat} {history : History Id} {run : Id} {sender : Address}
  {nonce : Uint256}

/-- A run that waits for a nonce waits for that of the sender whose lock it has. -/
theorem stance_of_pending_nonce (legal : Legal history)
    (waits : history.pending run = some (.nonce sender)) : history.stance run = .locked sender :=
  legal.permits_of_pending waits fun _ => ServiceRequest.noConfusion

/-- A run that waits for the answer to what it sent has sent what it could. -/
theorem stance_of_pending_send {operation : Operation} {entryPoint : Address}
    (legal : Legal history) (waits : history.pending run = some (.send operation entryPoint)) :
    history.stance run = .informed operation.sender operation.nonce :=
  legal.permits_of_pending waits fun _ => ServiceRequest.noConfusion

/-- A run has known a nonce before an event, or it is told in the event. -/
theorem informed_cons {event : Event Id} (legal : Legal (event :: history))
    (informed : stance (event :: history) run = .informed sender nonce) :
    (history.stance run = .informed sender nonce ∧ event.act.accepted? sender = none) ∨
      event = ⟨run, .answered (.nonce sender) (.ok nonce : Except Failure Uint256)⟩ := by
  by_cases own : event.run = run
  · obtain ⟨_, act⟩ := event
    subst own
    rw [stance_cons_self] at informed
    rcases Stance.eq_informed_of_next informed with ⟨known, unanswered⟩ | ⟨locked, other, rfl⟩
    · refine .inl ⟨known, ?_⟩
      cases taken : act.accepted? sender with
      | none => rfl
      | some other =>
          obtain ⟨operation, entryPoint, hash, answered, -⟩ := exists_of_accepted? taken
          exact absurd answered (unanswered operation entryPoint _)
    · have asked := legal.tail.stance_of_pending_nonce legal.2.1
      rw [asked] at locked
      cases locked
      exact .inr rfl
  · rw [stance_cons_of_ne own] at informed
    refine .inl ⟨informed, ?_⟩
    cases taken : event.act.accepted? sender with
    | none => rfl
    | some other =>
        have mine := legal.lock?_of_concerns (concerns_of_accepted? taken)
        exact absurd (legal.tail.eq_of_lock?_eq mine (by rw [informed]; rfl)) own

/-- A nonce that a run knows has been reached by the count. -/
theorem le_count_of_informed (legal : Legal history) (explains : Explains count history)
    (informed : history.stance run = .informed sender nonce) :
    nonce.toNat ≤ count history.length sender := by
  induction history with
  | nil => cases informed
  | cons event history ih =>
      rcases legal.informed_cons informed with ⟨known, -⟩ | rfl
      · have earlier := ih legal.tail explains.tail known
        exact Nat.le_trans earlier (explains.grows sender (Nat.le_succ _))
      · obtain ⟨during, before, rfl, others⟩ := exists_of_pending legal.2.1
        have read := (explains.reads ⟨[], during, before, rfl, others, rfl, rfl⟩).2
        refine Nat.le_trans read (Nat.le_of_eq ?_)
        simp [Nat.add_assoc]

/-- The count is past the nonce of each accepted operation. -/
theorem lt_count_of_accepted (legal : Legal history) (explains : Explains count history)
    (taken : nonce ∈ history.accepted sender) : nonce.toNat < count history.length sender := by
  induction history with
  | nil => cases taken
  | cons event history ih =>
      rcases mem_accepted_cons.mp taken with now | earlier
      · obtain ⟨run, act⟩ := event
        obtain ⟨operation, entryPoint, hash, rfl, rfl, rfl⟩ := exists_of_accepted? now
        obtain ⟨during, before, rfl, others⟩ := exists_of_pending legal.2.1
        have asked := legal.tail.of_append
        have known := asked.tail.le_count_of_informed explains.tail.of_append.tail asked.2
        have advanced := explains.advances ⟨[], during, before, rfl, others, rfl, rfl⟩
        refine Nat.lt_of_le_of_lt known (Nat.lt_of_lt_of_eq advanced ?_)
        simp [Nat.add_assoc]
      · exact Nat.lt_of_lt_of_le (ih legal.tail explains.tail earlier)
          (explains.grows sender (Nat.le_succ _))

/-- A run that has asked for a nonce is told a greater one than any that was used. -/
theorem lt_of_told (legal : Legal (⟨run, .answered (.nonce sender)
      (.ok nonce : Except Failure Uint256)⟩ :: history))
    (explains : Explains count (⟨run, .answered (.nonce sender)
      (.ok nonce : Except Failure Uint256)⟩ :: history))
    {used : Uint256} (taken : used ∈ history.accepted sender) : used < nonce := by
  obtain ⟨during, before, rfl, others⟩ := exists_of_pending legal.2.1
  have asked := legal.tail.of_append
  have quiet : ∀ event ∈ during, ¬ event.act.Concerns sender := by
    intro event member
    have active := legal.tail.stance_of_pending_nonce legal.2.1
    exact (legal.tail.undisturbed asked.lock?_of_asked_nonce
      (by rw [active]; exact Stance.noConfusion)).2 event member (others event member)
  rw [accepted_append quiet] at taken
  have passed := asked.tail.lt_count_of_accepted explains.tail.of_append.tail taken
  have read := (explains.reads ⟨[], during, before, rfl, others, rfl, rfl⟩).1
  exact Nat.lt_of_lt_of_le passed read

/-- A nonce that a run knows is greater than that of any operation of the sender that was
accepted. -/
theorem lt_of_informed (legal : Legal history) (explains : Explains count history)
    (informed : history.stance run = .informed sender nonce) {used : Uint256}
    (taken : used ∈ history.accepted sender) : used < nonce := by
  induction history with
  | nil => cases informed
  | cons event history ih =>
      rcases legal.informed_cons informed with ⟨known, unaccepted⟩ | rfl
      · rw [accepted_cons_of_none unaccepted] at taken
        exact ih legal.tail explains.tail known taken
      · rw [accepted_cons_of_none rfl] at taken
        exact legal.lt_of_told explains taken

/-- **Nonces only grow.** Of the operations accepted for one sender each has a greater nonce than
those before it. -/
theorem accepted_pairwise (legal : Legal history) (explains : Explains count history)
    (sender : Address) :
    (history.accepted sender).Pairwise fun later earlier => earlier < later := by
  induction history with
  | nil => exact List.Pairwise.nil
  | cons event history ih =>
      have earlier := ih legal.tail explains.tail
      cases taken : event.act.accepted? sender with
      | none =>
          rw [accepted_cons_of_none taken]
          exact earlier
      | some nonce =>
          obtain ⟨run, act⟩ := event
          obtain ⟨operation, entryPoint, hash, rfl, rfl, rfl⟩ := exists_of_accepted? taken
          have informed := legal.tail.stance_of_pending_send legal.2.1
          rw [accepted_cons_of_some taken]
          exact List.Pairwise.cons
            (fun used member => legal.tail.lt_of_informed explains.tail informed member) earlier

end Legal

end History

end AccountRelay
