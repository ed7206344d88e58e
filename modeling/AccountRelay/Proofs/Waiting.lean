import AccountRelay.Proofs.LocalNet.Reference
import AccountRelay.Submission

/-! # Waiting for a receipt

A wait meets a clock and the answers to its lookups, both in any course (`Submission.Script`), on a net
that is in any state otherwise. A lookup that fails or finds nothing leads to the next round, with one
warning if it failed (`Submission.run_waitFrom_of_isOpen`), so rounds without an end only count up
(`Submission.Script.exists_waited_add`). What ends a wait is the first lookup that finds a receipt, or
the first reading of the clock past the time limit, whichever comes before the other
(`Submission.Script.waits_by_script`).
-/

namespace AccountRelay.Submission

/-- What a wait meets: the time at its start, the time gone by before each lookup, and what each lookup
finds. -/
structure Script where
  start : Duration
  elapsed : Nat → Duration
  finds : Nat → Except Failure (Option Receipt)

/-- A net, how often its clock has been read, and how often a receipt has been looked up there. -/
structure ScriptedNet where
  net : LocalNet
  readings : Nat := 0
  looks : Nat := 0

namespace Script

variable (script : Script) (hash : Hash) (interval timeout : Duration) (net : LocalNet)

/-- What the clock says at each reading: the first is the start, and one is made before each lookup. -/
def reading : Nat → Duration
  | 0 => script.start
  | look + 1 => ⟨script.start.nanoseconds + (script.elapsed look).nanoseconds⟩

/-- The answers of a net whose clock and lookups go by a script. -/
def answer : (request : ServiceRequest) → ScriptedNet → request.Answer × ScriptedNet
  | .uptime, world => (script.reading world.readings, { world with readings := world.readings + 1 })
  | .receipt hash, world =>
    (script.finds world.looks,
      { world with net := world.net.note (.receipt hash), looks := world.looks + 1 })
  | request, world =>
    let (reply, net) := LocalNet.answer request world.net
    (reply, { world with net })

/-- A wait of so many rounds that meets a script. -/
def waited (rounds : Nat) : Except Failure (Option Receipt) × ScriptedNet :=
  (wait hash interval timeout rounds).run script.answer { net }

/-- Whether a lookup fails. -/
def fails (look : Nat) : Bool :=
  !(script.finds look).isOk

/-- A lookup that a wait makes and goes on from. -/
structure IsOpen (look : Nat) : Prop where
  in_time : isOverdue timeout (script.elapsed look) = false
  without : ∀ receipt, script.finds look ≠ .ok (some receipt)

/-- The first lookup with a receipt finds this one, and no reading up to it is past the time limit. -/
structure Includes (look : Nat) (receipt : Receipt) : Prop where
  found : script.finds look = .ok (some receipt)
  without : ∀ earlier < look, ∀ other, script.finds earlier ≠ .ok (some other)
  in_time : timeout.nanoseconds = 0 ∨
    ∀ earlier ≤ look, (script.elapsed earlier).nanoseconds ≤ timeout.nanoseconds

/-- The first reading past a time limit is the one before this lookup, and no lookup before it has a
receipt. -/
structure RunsOut (look : Nat) : Prop where
  limited : timeout.nanoseconds ≠ 0
  overdue : timeout.nanoseconds < (script.elapsed look).nanoseconds
  in_time : ∀ earlier < look, (script.elapsed earlier).nanoseconds ≤ timeout.nanoseconds
  without : ∀ earlier < look, ∀ receipt, script.finds earlier ≠ .ok (some receipt)

/-- A net after so many lookups: each was asked for, and there is one warning for each that failed. -/
structure Tally (looks : Nat) (world : ScriptedNet) : Prop where
  looks_eq : world.looks = looks
  asked_eq : world.net.asked = List.replicate looks (.receipt hash) ++ net.asked
  warnings_eq : world.net.warnings =
    List.replicate ((List.range looks).countP script.fails) .receiptLookup ++ net.warnings

end Script

variable {script : Script} {hash : Hash} {interval timeout : Duration} {net : LocalNet} {look : Nat}
  {world : ScriptedNet}

/-! ## One round -/

/-- A wait is overdue when it has a time limit and has lasted longer. -/
theorem isOverdue_eq_true_iff {elapsed : Duration} :
    isOverdue timeout elapsed = true ↔
      timeout.nanoseconds ≠ 0 ∧ timeout.nanoseconds < elapsed.nanoseconds := by
  simp [isOverdue]

/-- A wait is not overdue when it has no time limit or has not lasted longer. -/
theorem isOverdue_eq_false_iff {elapsed : Duration} :
    isOverdue timeout elapsed = false ↔
      timeout.nanoseconds = 0 ∨ elapsed.nanoseconds ≤ timeout.nanoseconds := by
  rw [← Bool.not_eq_true, isOverdue_eq_true_iff]
  omega

/-- What a round does with what its lookup finds. -/
def goOn (interval : Duration) (next : Consultation (Option Receipt)) :
    Except Failure (Option Receipt) → Consultation (Option Receipt)
  | .ok (some receipt) => .done (some receipt)
  | .ok none => do
    Services.pause interval
    next
  | .error _ => do
    Services.warn .receiptLookup
    Services.pause interval
    next

/-- A round goes on with what its lookup finds. -/
theorem attempt_receiptState_bind (next : Consultation (Option Receipt)) :
    ((receiptState hash).attempt >>= fun state =>
      match state with
      | .ok (.included receipt) => return some receipt
      | .ok .pending => do
        Services.pause interval
        next
      | .error _ => do
        Services.warn .receiptLookup
        Services.pause interval
        next) =
    .ask (.receipt hash) (goOn interval next) := by
  refine congrArg (Dialogue.ask _) (funext ?_)
  rintro (failure | found | receipt)
  · rfl
  · rfl
  · rfl

/-- A round reads the clock and, in time, looks once. -/
theorem run_waitFrom_succ (read : world.readings = look + 1) (looked : world.looks = look)
    (rounds : Nat) :
    (waitFrom hash interval timeout script.start (rounds + 1)).run script.answer world =
      if isOverdue timeout (script.elapsed look) then
        (.error (.timedOut timeout), { world with readings := world.readings + 1 })
      else
        (goOn interval (waitFrom hash interval timeout script.start rounds) (script.finds look)).run
          script.answer
          { net := world.net.note (.receipt hash)
            readings := world.readings + 1
            looks := world.looks + 1 } := by
  have clock : Services.uptime.run script.answer world =
      (.ok ⟨script.start.nanoseconds + (script.elapsed look).nanoseconds⟩,
        { world with readings := world.readings + 1 }) := by
    change (Except.ok (script.reading world.readings), _) = _
    rw [read]
    rfl
  rw [waitFrom, Dialogue.run_bind, clock]
  simp only [Nat.add_sub_cancel_left]
  split
  · rfl
  · rw [← looked]
    exact congrArg (Dialogue.run script.answer · _) (attempt_receiptState_bind _)

/-- A pause lets a net's clock go on, and nothing else. -/
theorem run_pause_bind (next : Consultation (Option Receipt)) :
    (Services.pause interval >>= fun _ => next).run script.answer world =
      next.run script.answer { world with net := { world.net with
        uptime := ⟨world.net.uptime.nanoseconds + interval.nanoseconds⟩ } } := by
  have answered : LocalNet.answer (.pause interval) world.net = world.net.respond (.pause interval) :=
    LocalNet.answer_of_not_isRemote rfl world.net
  exact congrArg (fun answered => next.run script.answer { world with net := answered.2 }) answered

/-- A warning is written down, and changes nothing else. -/
theorem run_warn_bind (warning : Warning) (next : Consultation (Option Receipt)) :
    (Services.warn warning >>= fun _ => next).run script.answer world =
      next.run script.answer { world with net := { world.net with
        warnings := warning :: world.net.warnings } } := by
  have answered : LocalNet.answer (.warn warning) world.net = world.net.respond (.warn warning) :=
    LocalNet.answer_of_not_isRemote rfl world.net
  exact congrArg (fun answered => next.run script.answer { world with net := answered.2 }) answered

/-- One more lookup is counted, with a warning if it fails. -/
theorem Script.Tally.succ (tally : script.Tally hash net look world) {after : ScriptedNet}
    (looks : after.looks = world.looks + 1)
    (asked : after.net.asked = .receipt hash :: world.net.asked)
    (warned : after.net.warnings =
      (if script.fails look then [.receiptLookup] else []) ++ world.net.warnings) :
    script.Tally hash net (look + 1) after where
  looks_eq := by rw [looks, tally.looks_eq]
  asked_eq := by rw [asked, tally.asked_eq]; rfl
  warnings_eq := by
    rw [warned, tally.warnings_eq, List.range_succ, List.countP_append, List.countP_singleton]
    cases script.fails look with
    | true => rfl
    | false => rfl

/-- Lookups are counted by the world. -/
theorem Script.Tally.self (tally : script.Tally hash net look world) :
    script.Tally hash net world.looks world := by
  rw [tally.looks_eq]
  exact tally

/-- **An open round.** A lookup that fails or finds nothing leads to the next round, with one warning if
it failed. -/
theorem run_waitFrom_of_isOpen (is_open : script.IsOpen timeout look)
    (tally : script.Tally hash net look world) (read : world.readings = look + 1) (rounds : Nat) :
    ∃ next, script.Tally hash net (look + 1) next ∧ next.readings = look + 2 ∧
      (waitFrom hash interval timeout script.start (rounds + 1)).run script.answer world =
        (waitFrom hash interval timeout script.start rounds).run script.answer next := by
  rw [run_waitFrom_succ read tally.looks_eq, if_neg (by simp [is_open.in_time])]
  rcases finds : script.finds look with failure | found | receipt
  · have fails : script.fails look = true := by rw [Script.fails, finds]; rfl
    refine ⟨_, tally.succ ?_ ?_ ?_, ?_, (run_warn_bind _ _).trans (run_pause_bind _)⟩
    · rfl
    · rfl
    · rw [fails]
      rfl
    · rw [read]
  · have fails : script.fails look = false := by rw [Script.fails, finds]; rfl
    refine ⟨_, tally.succ ?_ ?_ ?_, ?_, run_pause_bind _⟩
    · rfl
    · rfl
    · rw [fails]
      rfl
    · rw [read]
  · exact absurd finds (is_open.without receipt)

/-- A round that is overdue ends a wait, without a lookup. -/
theorem run_waitFrom_of_isOverdue (overdue : isOverdue timeout (script.elapsed look) = true)
    (tally : script.Tally hash net look world) (read : world.readings = look + 1) (rounds : Nat) :
    ∃ last, script.Tally hash net look last ∧
      (waitFrom hash interval timeout script.start (rounds + 1)).run script.answer world =
        (.error (.timedOut timeout), last) := by
  rw [run_waitFrom_succ read tally.looks_eq, if_pos overdue]
  exact ⟨{ world with readings := world.readings + 1 },
    ⟨tally.looks_eq, tally.asked_eq, tally.warnings_eq⟩, rfl⟩

/-- A round whose lookup finds a receipt in time ends a wait. -/
theorem run_waitFrom_of_found {receipt : Receipt}
    (in_time : isOverdue timeout (script.elapsed look) = false)
    (found : script.finds look = .ok (some receipt))
    (tally : script.Tally hash net look world) (read : world.readings = look + 1) (rounds : Nat) :
    ∃ last, script.Tally hash net (look + 1) last ∧
      (waitFrom hash interval timeout script.start (rounds + 1)).run script.answer world =
        (.ok (some receipt), last) := by
  have fails : script.fails look = false := by rw [Script.fails, found]; rfl
  rw [run_waitFrom_succ read tally.looks_eq, if_neg (by simp [in_time]), found]
  refine ⟨_, tally.succ ?_ ?_ ?_, rfl⟩
  · rfl
  · rfl
  · rw [fails]
    rfl

/-! ## Many rounds -/

namespace Script

/-- **Open rounds count up.** As long as rounds are open, a wait is where it began, with the lookups
counted and the failures told. -/
theorem exists_waited_add (hash : Hash) (interval : Duration) (net : LocalNet) {looks : Nat}
    (open_before : ∀ look < looks, script.IsOpen timeout look) (rounds : Nat) :
    ∃ world, script.Tally hash net looks world ∧ world.readings = looks + 1 ∧
      script.waited hash interval timeout net (looks + rounds) =
        (waitFrom hash interval timeout script.start rounds).run script.answer world := by
  induction looks generalizing rounds with
  | zero => exact ⟨{ net, readings := 1 }, ⟨rfl, rfl, rfl⟩, rfl, by rw [Nat.zero_add]; rfl⟩
  | succ looks ih =>
      obtain ⟨world, tally, read, runs⟩ := ih (fun look less => open_before look (by omega)) (rounds + 1)
      obtain ⟨next, tally_next, read_next, runs_next⟩ :=
        run_waitFrom_of_isOpen (open_before looks (by omega)) tally read rounds
      refine ⟨next, tally_next, read_next, ?_⟩
      rw [Nat.add_right_comm, Nat.add_assoc, runs, runs_next]

/-- Rounds that all go on end without a receipt, and with all their lookups made. -/
theorem exists_waited_of_isOpen (hash : Hash) (interval : Duration) (net : LocalNet) {rounds : Nat}
    (open_before : ∀ look < rounds, script.IsOpen timeout look) :
    ∃ world, script.Tally hash net rounds world ∧
      script.waited hash interval timeout net rounds = (.ok none, world) := by
  obtain ⟨world, tally, -, runs⟩ := exists_waited_add hash interval net open_before 0
  exact ⟨world, tally, runs⟩

/-! ## Ends -/

variable {receipt : Receipt} {rounds : Nat}

/-- All rounds before the receipt go on. -/
theorem Includes.isOpen (includes : script.Includes timeout look receipt) :
    ∀ earlier < look, script.IsOpen timeout earlier := fun earlier less =>
  { in_time := isOverdue_eq_false_iff.mpr
      (includes.in_time.imp_right fun in_time => in_time earlier (by omega))
    without := includes.without earlier less }

/-- All rounds before the time limit go on. -/
theorem RunsOut.isOpen (runs_out : script.RunsOut timeout look) :
    ∀ earlier < look, script.IsOpen timeout earlier := fun earlier less =>
  { in_time := isOverdue_eq_false_iff.mpr (.inr (runs_out.in_time earlier less))
    without := runs_out.without earlier less }

/-- With rounds enough the receipt is found, and no lookup is made behind it. -/
theorem Includes.exists_waited (includes : script.Includes timeout look receipt) (hash : Hash)
    (interval : Duration) (net : LocalNet) (less : look < rounds) :
    ∃ world, script.Tally hash net (look + 1) world ∧
      script.waited hash interval timeout net rounds = (.ok (some receipt), world) := by
  obtain ⟨behind, rfl⟩ := Nat.exists_eq_add_of_lt less
  obtain ⟨world, tally, read, runs⟩ := exists_waited_add hash interval net includes.isOpen (behind + 1)
  obtain ⟨last, told, ends⟩ := run_waitFrom_of_found
    (isOverdue_eq_false_iff.mpr (includes.in_time.imp_right fun in_time => in_time look (by omega)))
    includes.found tally read behind
  exact ⟨last, told, runs.trans ends⟩

/-- With rounds enough the time limit is reached, and no lookup is made behind it. -/
theorem RunsOut.exists_waited (runs_out : script.RunsOut timeout look) (hash : Hash)
    (interval : Duration) (net : LocalNet) (less : look < rounds) :
    ∃ world, script.Tally hash net look world ∧
      script.waited hash interval timeout net rounds = (.error (.timedOut timeout), world) := by
  obtain ⟨behind, rfl⟩ := Nat.exists_eq_add_of_lt less
  obtain ⟨world, tally, read, runs⟩ := exists_waited_add hash interval net runs_out.isOpen (behind + 1)
  obtain ⟨last, told, ends⟩ := run_waitFrom_of_isOverdue
    (isOverdue_eq_true_iff.mpr ⟨runs_out.limited, runs_out.overdue⟩) tally read behind
  exact ⟨last, told, runs.trans ends⟩

/-- A wait that meets a receipt ends with it if it has rounds enough, and makes no more lookups than it
needs. -/
theorem Includes.waited (includes : script.Includes timeout look receipt) (hash : Hash)
    (interval : Duration) (net : LocalNet) (rounds : Nat) :
    (script.waited hash interval timeout net rounds).1 =
        .ok (if look < rounds then some receipt else none) ∧
      (script.waited hash interval timeout net rounds).2.looks = min rounds (look + 1) := by
  by_cases less : look < rounds
  · obtain ⟨world, tally, run⟩ := includes.exists_waited hash interval net less
    rw [run, if_pos less, Nat.min_eq_right less]
    exact ⟨rfl, tally.looks_eq⟩
  · obtain ⟨world, tally, run⟩ := exists_waited_of_isOpen hash interval net
      fun earlier (below : earlier < rounds) => includes.isOpen earlier (by omega)
    rw [run, if_neg less, Nat.min_eq_left (by omega)]
    exact ⟨rfl, tally.looks_eq⟩

/-- A wait that meets its time limit ends there if it has rounds enough, and makes no more lookups than
it has time for. -/
theorem RunsOut.waited (runs_out : script.RunsOut timeout look) (hash : Hash) (interval : Duration)
    (net : LocalNet) (rounds : Nat) :
    (script.waited hash interval timeout net rounds).1 =
        (if look < rounds then .error (.timedOut timeout) else .ok none) ∧
      (script.waited hash interval timeout net rounds).2.looks = min rounds look := by
  by_cases less : look < rounds
  · obtain ⟨world, tally, run⟩ := runs_out.exists_waited hash interval net less
    rw [run, if_pos less, Nat.min_eq_right (by omega)]
    exact ⟨rfl, tally.looks_eq⟩
  · obtain ⟨world, tally, run⟩ := exists_waited_of_isOpen hash interval net
      fun earlier (below : earlier < rounds) => runs_out.isOpen earlier (by omega)
    rw [run, if_neg less, Nat.min_eq_left (by omega)]
    exact ⟨rfl, tally.looks_eq⟩

/-- A round that goes on is within the time limit, if there is one. -/
theorem IsOpen.le_of_limited (is_open : script.IsOpen timeout look)
    (limited : timeout.nanoseconds ≠ 0) :
    (script.elapsed look).nanoseconds ≤ timeout.nanoseconds :=
  (isOverdue_eq_false_iff.mp is_open.in_time).resolve_left limited

/-- Rounds that go on up to one that is overdue run out of time there. -/
theorem runsOut_of_isOpen (open_before : ∀ earlier < look, script.IsOpen timeout earlier)
    (overdue : isOverdue timeout (script.elapsed look) = true) : script.RunsOut timeout look := by
  obtain ⟨limited, passed⟩ := isOverdue_eq_true_iff.mp overdue
  exact {
    limited
    overdue := passed
    in_time := fun earlier less => (open_before earlier less).le_of_limited limited
    without := fun earlier less => (open_before earlier less).without }

/-- Rounds that go on up to one that finds a receipt lead to that receipt. -/
theorem includes_of_isOpen (open_before : ∀ earlier < look, script.IsOpen timeout earlier)
    (in_time : isOverdue timeout (script.elapsed look) = false)
    (found : script.finds look = .ok (some receipt)) : script.Includes timeout look receipt where
  found
  without := fun earlier less => (open_before earlier less).without
  in_time := by
    by_cases unlimited : timeout.nanoseconds = 0
    · exact .inl unlimited
    · refine .inr fun earlier no_later => ?_
      rcases Nat.lt_or_eq_of_le no_later with less | rfl
      · exact (open_before earlier less).le_of_limited unlimited
      · exact (isOverdue_eq_false_iff.mp in_time).resolve_left unlimited

/-- Up to any round a wait has met open lookups only, or its end. -/
theorem isOpen_or_ends (script : Script) (timeout : Duration) (rounds : Nat) :
    (∀ look < rounds, script.IsOpen timeout look) ∨
      (∃ look < rounds, ∃ receipt, script.Includes timeout look receipt) ∨
      ∃ look < rounds, script.RunsOut timeout look := by
  induction rounds with
  | zero => exact .inl nofun
  | succ rounds ih =>
      rcases ih with open_before | ⟨look, less, receipt, includes⟩ | ⟨look, less, runs_out⟩
      · cases overdue : isOverdue timeout (script.elapsed rounds) with
        | true => exact .inr (.inr ⟨rounds, by omega, runsOut_of_isOpen open_before overdue⟩)
        | false =>
            by_cases found : ∃ receipt, script.finds rounds = .ok (some receipt)
            · obtain ⟨receipt, found⟩ := found
              exact .inr (.inl
                ⟨rounds, by omega, receipt, includes_of_isOpen open_before overdue found⟩)
            · refine .inl fun look less => ?_
              rcases Nat.lt_or_eq_of_le (Nat.le_of_lt_succ less) with less | rfl
              · exact open_before look less
              · exact ⟨overdue, fun receipt same => found ⟨receipt, same⟩⟩
      · exact .inr (.inl ⟨look, by omega, receipt, includes⟩)
      · exact .inr (.inr ⟨look, by omega, runs_out⟩)

/-- A wait of so many rounds has returned the receipt that the script includes, has failed because the
script ran out of time, or has made one lookup a round. -/
theorem waited_cases (script : Script) (hash : Hash) (interval timeout : Duration) (net : LocalNet)
    (rounds : Nat) :
    let (outcome, world) := script.waited hash interval timeout net rounds
    script.Tally hash net world.looks world ∧
      ((∃ look < rounds, ∃ receipt, script.Includes timeout look receipt ∧
          outcome = .ok (some receipt)) ∨
        (∃ look < rounds, script.RunsOut timeout look ∧ outcome = .error (.timedOut timeout)) ∨
        world.looks = rounds ∧ outcome = .ok none) := by
  rcases script.isOpen_or_ends timeout rounds with
    is_open | ⟨look, less, receipt, includes⟩ | ⟨look, less, runs_out⟩
  · obtain ⟨world, tally, run⟩ := exists_waited_of_isOpen hash interval net is_open
    rw [run]
    exact ⟨tally.self, .inr (.inr ⟨tally.looks_eq, rfl⟩)⟩
  · obtain ⟨world, tally, run⟩ := includes.exists_waited hash interval net less
    rw [run]
    exact ⟨tally.self, .inl ⟨look, less, receipt, includes, rfl⟩⟩
  · obtain ⟨world, tally, run⟩ := runs_out.exists_waited hash interval net less
    rw [run]
    exact ⟨tally.self, .inr (.inl ⟨look, less, runs_out, rfl⟩)⟩

/-- **A wait goes by its script.** A receipt that is found in time is returned by the lookup that finds
it, and the first reading past a time limit, with no receipt found before, makes the wait fail without
another lookup; up to there, and in every other case, there is one lookup a round and no end. Neither a
failed lookup nor one that finds nothing ends a wait, each lookup asks for the one receipt, each failed
one is told once, and a wait with no time limit never fails. -/
theorem waits_by_script (script : Script) (hash : Hash) (interval timeout : Duration)
    (net : LocalNet) :
    let waited := script.waited hash interval timeout net
    (∀ look receipt, script.Includes timeout look receipt → ∀ rounds,
      (waited rounds).1 = .ok (if look < rounds then some receipt else none) ∧
        (waited rounds).2.looks = min rounds (look + 1)) ∧
    (∀ look, script.RunsOut timeout look → ∀ rounds,
      (waited rounds).1 = (if look < rounds then .error (.timedOut timeout) else .ok none) ∧
        (waited rounds).2.looks = min rounds look) ∧
    ((∀ look receipt, ¬ script.Includes timeout look receipt) →
      (∀ look, ¬ script.RunsOut timeout look) →
      ∀ rounds, (waited rounds).1 = .ok none ∧ (waited rounds).2.looks = rounds) ∧
    (∀ rounds, script.Tally hash net (waited rounds).2.looks (waited rounds).2 ∧
      ((∃ look < rounds, ∃ receipt, script.Includes timeout look receipt ∧
          (waited rounds).1 = .ok (some receipt)) ∨
        (∃ look < rounds, script.RunsOut timeout look ∧
          (waited rounds).1 = .error (.timedOut timeout)) ∨
        (waited rounds).2.looks = rounds ∧ (waited rounds).1 = .ok none)) ∧
    (timeout.nanoseconds = 0 → ∀ rounds failure, (waited rounds).1 ≠ .error failure) := by
  intro waited
  refine ⟨?_, ?_, ?_, ?_, ?_⟩
  · exact fun look receipt includes rounds => includes.waited hash interval net rounds
  · exact fun look runs_out rounds => runs_out.waited hash interval net rounds
  · intro never_found never_late rounds
    rcases (script.waited_cases hash interval timeout net rounds).2 with
      ⟨look, -, receipt, includes, -⟩ | ⟨look, -, runs_out, -⟩ | ⟨looks, unfinished⟩
    · exact absurd includes (never_found look receipt)
    · exact absurd runs_out (never_late look)
    · exact ⟨unfinished, looks⟩
  · exact script.waited_cases hash interval timeout net
  · intro unlimited rounds failure fails
    rcases (script.waited_cases hash interval timeout net rounds).2 with
      ⟨look, -, receipt, -, returned⟩ | ⟨look, -, runs_out, -⟩ | ⟨-, unfinished⟩
    · exact nomatch returned.symm.trans fails
    · exact runs_out.limited unlimited
    · exact nomatch unfinished.symm.trans fails

/-- A script whose lookups are two seconds apart: the first fails, the next finds nothing, and the others
find a receipt. -/
def mixed : Script where
  start := .ofSeconds 7
  elapsed look := .ofSeconds (2 * look)
  finds
    | 0 => .error (.reported "connection reset")
    | 1 => .ok none
    | _ + 2 => .ok (some { success := true, reason := none })

/-- The mixed script finds nothing in the first two rounds. -/
theorem mixed_without : ∀ earlier < 2, ∀ receipt, mixed.finds earlier ≠ .ok (some receipt)
  | 0, _ => nofun
  | 1, _ => nofun

/-- The receipt of that script is returned after four seconds, if the limit allows for them, and three
seconds are too few. -/
theorem waits_by_script_mixed :
    let hash : Hash := .filled 32 0x01
    let waited (seconds : Nat) :=
      mixed.waited hash (.ofSeconds 1) (.ofSeconds seconds) .obliging 9
    mixed.Includes (.ofSeconds 4) 2 { success := true, reason := none } ∧
      (waited 4).1 = .ok (some { success := true, reason := none }) ∧
      (waited 4).2.net.asked = List.replicate 3 (.receipt hash) ∧
      (waited 4).2.net.warnings = [.receiptLookup] ∧
      mixed.RunsOut (.ofSeconds 3) 2 ∧
      (waited 3).1 = .error (.timedOut (.ofSeconds 3)) ∧
      (waited 3).2.net.asked = List.replicate 2 (.receipt hash) ∧
      (waited 3).2.net.warnings = [.receiptLookup] := by
  intro hash waited
  have includes : mixed.Includes (.ofSeconds 4) 2 { success := true, reason := none } :=
    ⟨rfl, mixed_without, .inr (by decide)⟩
  have runs_out : mixed.RunsOut (.ofSeconds 3) 2 :=
    ⟨by simp [Duration.ofSeconds], by decide, by decide, mixed_without⟩
  obtain ⟨found, -, -, stands_found, -⟩ :=
    mixed.waits_by_script hash (.ofSeconds 1) (.ofSeconds 4) .obliging
  obtain ⟨-, late, -, stands_late, -⟩ :=
    mixed.waits_by_script hash (.ofSeconds 1) (.ofSeconds 3) .obliging
  obtain ⟨returned, looks_found⟩ := found 2 _ includes 9
  obtain ⟨failed, looks_late⟩ := late 2 runs_out 9
  have tally_found : mixed.Tally hash .obliging 3 (waited 4).2 := by
    have tally := (stands_found 9).1
    rw [looks_found] at tally
    exact tally
  have tally_late : mixed.Tally hash .obliging 2 (waited 3).2 := by
    have tally := (stands_late 9).1
    rw [looks_late] at tally
    exact tally
  exact ⟨includes, returned, tally_found.asked_eq, tally_found.warnings_eq,
    runs_out, failed, tally_late.asked_eq, tally_late.warnings_eq⟩

end Script

end AccountRelay.Submission
