import AccountRelay.LocalNet

/-! # Consulting a net in memory

Without outages most questions are answered from the settings of a net, and change only its log of
what it was asked, told and had to fund (`LocalNet.respond_logged`). So a consultation of such
questions has one outcome, whatever the log (`LocalNet.Yields`), and it finds a value exactly when
the value satisfies some condition (`LocalNet.Finds`). The conditions of consultations that follow
each other add up (`Finds.bind`). At the end of a run an operation may be sent (`LocalNet.Sends`).
-/

namespace AccountRelay

/-- Questions whose answers only settings decide, and that change nothing but the log. -/
def ServiceRequest.IsSteady : ServiceRequest → Prop
  | .send _ _ | .receipt _ | .uptime | .pause _ => False
  | _ => True

namespace LocalNet

variable {α β : Type} {net after : LocalNet}

/-- What a net was asked, told and had to fund. -/
structure Log where
  asked : List ServiceRequest
  warnings : List Warning
  funded : List (Address × Uint256)

/-- A net with another log. -/
def logged (net : LocalNet) (log : Log) : LocalNet :=
  { net with asked := log.asked, warnings := log.warnings, funded := log.funded }

/-- The log of a net. -/
def log (net : LocalNet) : Log :=
  ⟨net.asked, net.warnings, net.funded⟩

/-- A net has its own log. -/
@[simp] theorem logged_log (net : LocalNet) : net.logged net.log = net := rfl

/-- The answer to a steady question does not depend on the log. -/
theorem respond_logged {request : ServiceRequest} (steady : request.IsSteady) (net : LocalNet)
    (log : Log) :
    ∃ later, (net.logged log).respond request = ((net.respond request).1, net.logged later) := by
  cases request with
  | fund account amount => exact ⟨⟨log.asked, log.warnings, (account, amount) :: log.funded⟩, rfl⟩
  | warn warning => exact ⟨⟨log.asked, warning :: log.warnings, log.funded⟩, rfl⟩
  | codeAt account =>
      refine ⟨log, ?_⟩
      simp only [respond]
      cases failed : net.failCode with
      | _ => simp [logged, failed]
  | tokenBalance token holder =>
      refine ⟨log, ?_⟩
      simp only [respond]
      cases found : net.tokenBalances.lookup (token, holder) with
      | _ => simp [logged, found]
  | send _ _ | receipt _ | uptime | pause _ => exact steady.elim
  | _ => exact ⟨log, rfl⟩

/-- What is written down of a steady question changes the log only. -/
theorem note_logged {request : ServiceRequest} (steady : request.IsSteady) (net : LocalNet)
    (log : Log) : ∃ later, (net.logged log).note request = net.logged later := by
  cases request with
  | send _ _ | receipt _ | uptime | pause _ => exact steady.elim
  | now | warn _ | acquire _ | release _ => exact ⟨log, rfl⟩
  | _ => exact ⟨⟨_ :: log.asked, log.warnings, log.funded⟩, rfl⟩

/-- Writing a question down ends no outage. -/
theorem outages_note (net : LocalNet) (request : ServiceRequest) :
    (net.note request).outages = net.outages := by
  unfold note
  split <;> split <;> rfl

/-- Without outages a net writes a question down and responds. -/
theorem answer_eq (clear : net.outages = []) (request : ServiceRequest) :
    answer request net = (net.note request).respond request := by
  simp only [answer]
  rw [outages_note, clear]
  rfl

/-- No outage keeps a net from answering for its host. -/
theorem answer_of_not_isRemote {request : ServiceRequest} (at_home : request.isRemote = false)
    (net : LocalNet) : answer request net = net.respond request := by
  cases request with
  | now | uptime | pause _ | warn _ | acquire _ | release _ =>
      simp only [answer]
      split
      · rfl
      · rfl
  | _ => cases at_home

/-- To send an operation is to ask one question. -/
theorem consult_send_eq_answer (net : LocalNet) (operation : Operation) (entryPoint : Address) :
    net.consult (Services.send operation entryPoint) = answer (.send operation entryPoint) net := by
  change (answer (.send operation entryPoint) net).2.consult
    (.ofExcept (answer (.send operation entryPoint) net).1) = _
  rcases answer (.send operation entryPoint) net with ⟨reply, after⟩
  cases (reply : Except Failure Hash) with
  | ok hash => rfl
  | error failure => rfl

/-- Without outages a steady question is answered whatever the log, and changes the log only. -/
theorem answer_logged (clear : net.outages = []) {request : ServiceRequest}
    (steady : request.IsSteady) (log : Log) :
    ∃ later, answer request (net.logged log) = ((net.respond request).1, net.logged later) := by
  obtain ⟨noted, same⟩ := note_logged steady net log
  rw [answer_eq (by exact clear), same]
  exact respond_logged steady net noted

/-- Whatever the log of a net, a consultation ends with an outcome and leaves the net as another. -/
def Yields (net : LocalNet) (consultation : Consultation α) (outcome : Except Failure α)
    (after : LocalNet) : Prop :=
  ∀ log, ∃ later, (net.logged log).consult consultation = (outcome, after.logged later)

namespace Yields

variable {outcome : Except Failure α}

/-- What is done ends with its value, and with the net as it was. -/
theorem done (value : α) : Yields net (.done value) (.ok value) net :=
  fun log => ⟨log, rfl⟩

/-- What fails ends with its failure, and with the net as it was. -/
theorem fail (failure : Failure) : Yields net (.fail failure : Consultation α) (.error failure) net :=
  fun log => ⟨log, rfl⟩

/-- An outcome is an end, with the net as it was. -/
theorem ofExcept (outcome : Except Failure α) : Yields net (.ofExcept outcome) outcome net := by
  cases outcome with
  | ok value => exact done value
  | error failure => exact fail failure

/-- A steady question is answered, and what follows decides the end. -/
theorem asking (clear : net.outages = []) (request : ServiceRequest) (steady : request.IsSteady)
    {next : request.Answer → Consultation α}
    (follows : Yields net (next (net.respond request).1) outcome after) :
    Yields net (Services.asking request next) outcome after := by
  intro log
  obtain ⟨heard, answered⟩ := answer_logged clear steady log
  obtain ⟨later, ended⟩ := follows heard
  refine ⟨later, ?_⟩
  rw [← ended]
  change (next (answer request (net.logged log)).1).run answer
    (answer request (net.logged log)).2 = _
  rw [answered]
  rfl

/-- What follows a value goes on in the net that its consultation left. -/
theorem bind {middle : LocalNet} {value : α} {result : Except Failure β}
    {consultation : Consultation α} {next : α → Consultation β}
    (first : Yields net consultation (.ok value) middle)
    (follows : Yields middle (next value) result after) :
    Yields net (consultation >>= next) result after := by
  intro log
  obtain ⟨heard, answered⟩ := first log
  obtain ⟨later, ended⟩ := follows heard
  refine ⟨later, ?_⟩
  unfold consult at answered ended ⊢
  rw [Dialogue.run_bind, answered]
  exact ended

/-- What follows a failure is not reached. -/
theorem bind_error {failure : Failure} {consultation : Consultation α} {next : α → Consultation β}
    (first : Yields net consultation (.error failure) after) :
    Yields net (consultation >>= next) (.error failure) after := by
  intro log
  obtain ⟨later, answered⟩ := first log
  refine ⟨later, ?_⟩
  unfold consult at answered ⊢
  rw [Dialogue.run_bind, answered]

/-- An attempt ends with the outcome for a value. -/
theorem attempt {consultation : Consultation α} (yields : Yields net consultation outcome after) :
    Yields net (consultation.attempt : Consultation (Except Failure α)) (.ok outcome) after := by
  intro log
  obtain ⟨later, ended⟩ := yields log
  refine ⟨later, ?_⟩
  unfold consult at ended ⊢
  rw [Dialogue.run_attempt, ended]

/-- Within a context a consultation ends the same way, with its failure in the context. -/
theorem within {consultation : Consultation α} (yields : Yields net consultation outcome after)
    (context : Context) :
    Yields net (Services.within context consultation) (outcome.mapError (.within context)) after := by
  intro log
  obtain ⟨later, ended⟩ := yields log
  refine ⟨later, ?_⟩
  unfold consult at ended ⊢
  rw [Services.within, Dialogue.run_mapError, ended]

/-- In the net itself a consultation ends as it does whatever the log. -/
theorem exists_consult (yields : Yields net consultation outcome after) :
    ∃ later, net.consult consultation = (outcome, after.logged later) :=
  yields net.log

end Yields

/-- A consultation ends with a value exactly when the value satisfies a condition, and leaves the
net as it was. -/
def Finds (net : LocalNet) (consultation : Consultation α) (holds : α → Prop) : Prop :=
  ∃ outcome, Yields net consultation outcome net ∧ ∀ value, outcome = .ok value ↔ holds value

namespace Finds

variable {holds : α → Prop} {consultation : Consultation α}

/-- What is done finds its value. -/
theorem done (value : α) : Finds net (.done value) (value = ·) :=
  ⟨.ok value, Yields.done value, fun _ => ⟨Except.ok.inj, congrArg _⟩⟩

/-- What fails finds nothing. -/
theorem fail (failure : Failure) : Finds net (.fail failure : Consultation α) fun _ => False :=
  ⟨.error failure, Yields.fail failure, fun _ => ⟨nofun, False.elim⟩⟩

/-- An outcome is found when it is a value. -/
theorem ofExcept (outcome : Except Failure α) :
    Finds net (.ofExcept outcome) (outcome = .ok ·) :=
  ⟨outcome, Yields.ofExcept outcome, fun _ => Iff.rfl⟩

/-- A condition may be put in another way. -/
theorem congr {holds' : α → Prop} (finds : Finds net consultation holds)
    (same : ∀ value, holds value ↔ holds' value) : Finds net consultation holds' := by
  obtain ⟨outcome, yields, ends⟩ := finds
  exact ⟨outcome, yields, fun value => (ends value).trans (same value)⟩

/-- A question that is steady finds what is found with its answer. -/
theorem asking (clear : net.outages = []) (request : ServiceRequest) (steady : request.IsSteady)
    {next : request.Answer → Consultation α}
    (follows : Finds net (next (net.respond request).1) holds) :
    Finds net (Services.asking request next) holds := by
  obtain ⟨outcome, yields, ends⟩ := follows
  exact ⟨outcome, yields.asking clear request steady, ends⟩

/-- What two consultations find one after the other satisfies both conditions. -/
theorem bind {holds' : α → β → Prop} {next : α → Consultation β}
    (first : Finds net consultation holds)
    (follows : ∀ value, holds value → Finds net (next value) (holds' value)) :
    Finds net (consultation >>= next) fun result => ∃ value, holds value ∧ holds' value result := by
  obtain ⟨outcome, yields, ends⟩ := first
  cases outcome with
  | error failure =>
      refine ⟨.error failure, yields.bind_error, ?_⟩
      intro result
      constructor
      · intro same
        cases same
      · rintro ⟨value, held, -⟩
        cases (ends value).mpr held
  | ok value =>
      have held : holds value := (ends value).mp rfl
      obtain ⟨outcome', yields', ends'⟩ := follows value held
      refine ⟨outcome', yields.bind yields', ?_⟩
      intro result
      rw [ends' result]
      constructor
      · intro found
        exact ⟨value, held, found⟩
      · rintro ⟨other, other_held, found⟩
        rw [Except.ok.inj ((ends other).mpr other_held)]
        exact found

/-- What follows when one value is found, under a condition. -/
theorem bind_if {condition : Prop} {value : α} {holds' : β → Prop} {next : α → Consultation β}
    (first : Finds net consultation fun found => condition ∧ value = found)
    (follows : condition → Finds net (next value) holds') :
    Finds net (consultation >>= next) fun result => condition ∧ holds' result := by
  have both : Finds net (consultation >>= next) fun result =>
      ∃ found, (condition ∧ value = found) ∧ holds' result := by
    apply first.bind
    rintro found ⟨held, rfl⟩
    exact follows held
  apply both.congr
  intro result
  constructor
  · rintro ⟨found, ⟨held, -⟩, ends⟩
    exact ⟨held, ends⟩
  · rintro ⟨held, ends⟩
    exact ⟨value, ⟨held, rfl⟩, ends⟩

/-- What follows when one value is found. -/
theorem bind_eq {value : α} {holds' : β → Prop} {next : α → Consultation β}
    (first : Finds net consultation (value = ·)) (follows : Finds net (next value) holds') :
    Finds net (consultation >>= next) holds' := by
  have known : Finds net consultation fun found => True ∧ value = found :=
    first.congr fun _ => ⟨And.intro trivial, And.right⟩
  exact (known.bind_if fun _ => follows).congr fun _ => ⟨And.right, And.intro trivial⟩

/-- A context is no matter for what is found. -/
theorem within (finds : Finds net consultation holds) (context : Context) :
    Finds net (Services.within context consultation) holds := by
  obtain ⟨outcome, yields, ends⟩ := finds
  refine ⟨_, yields.within context, ?_⟩
  intro value
  rw [← ends value]
  cases outcome with
  | ok other => exact Iff.rfl
  | error failure => exact ⟨nofun, nofun⟩

/-- A consultation ends with the value that satisfies its condition. -/
theorem exists_consult (finds : Finds net consultation holds) {value : α} (held : holds value) :
    ∃ after, net.consult consultation = (.ok value, after) := by
  obtain ⟨outcome, yields, ends⟩ := finds
  obtain ⟨later, run⟩ := yields.exists_consult
  rw [(ends value).mpr held] at run
  exact ⟨_, run⟩

end Finds

/-- A net after the bundler has taken an operation. -/
def taking (net : LocalNet) (operation : Operation) : LocalNet :=
  { net with sent := operation :: net.sent }

/-- A consultation ends with a hash, having sent an operation, exactly when the two satisfy a
condition; else it fails and sends nothing. -/
def Sends (net : LocalNet) (consultation : Consultation Hash) (holds : Hash → Operation → Prop) :
    Prop :=
  (∃ hash operation, holds hash operation ∧
    Yields net consultation (.ok hash) (net.taking operation)) ∨
  ((∀ hash operation, ¬ holds hash operation) ∧
    ∃ failure, Yields net consultation (.error failure) net)

/-- What is sent may be told in another way. -/
theorem Sends.congr {holds holds' : Hash → Operation → Prop} {consultation : Consultation Hash}
    (sends : Sends net consultation holds)
    (same : ∀ hash operation, holds hash operation ↔ holds' hash operation) :
    Sends net consultation holds' := by
  rcases sends with ⟨hash, operation, found, yields⟩ | ⟨never, failure, yields⟩
  · exact .inl ⟨hash, operation, (same hash operation).mp found, yields⟩
  · refine .inr ⟨?_, failure, yields⟩
    intro hash operation found
    exact never hash operation ((same hash operation).mpr found)

/-- What is found is part of what has to hold for an operation to be sent. -/
theorem Finds.sends {holds : α → Prop} {sent : α → Hash → Operation → Prop}
    {consultation : Consultation α} {next : α → Consultation Hash}
    (first : Finds net consultation holds)
    (follows : ∀ value, holds value → Sends net (next value) (sent value)) :
    Sends net (consultation >>= next)
      fun hash operation => ∃ value, holds value ∧ sent value hash operation := by
  obtain ⟨outcome, yields, ends⟩ := first
  cases outcome with
  | error failure =>
      refine .inr ⟨?_, failure, yields.bind_error⟩
      rintro hash operation ⟨value, held, -⟩
      cases (ends value).mpr held
  | ok value =>
      have held : holds value := (ends value).mp rfl
      rcases follows value held with ⟨hash, operation, found, yields'⟩ | ⟨never, failure, yields'⟩
      · exact .inl ⟨hash, operation, ⟨value, held, found⟩, yields.bind yields'⟩
      · refine .inr ⟨?_, failure, yields.bind yields'⟩
        rintro hash operation ⟨other, other_held, found⟩
        rw [Except.ok.inj ((ends other).mpr other_held)] at never
        exact never hash operation found

/-- Behind a check an operation is sent when the check passes and it would be sent without it. -/
theorem Finds.sends_if {condition : Prop} {value : α} {sent : Hash → Operation → Prop}
    {consultation : Consultation α} {next : α → Consultation Hash}
    (first : Finds net consultation fun found => condition ∧ value = found)
    (follows : condition → Sends net (next value) sent) :
    Sends net (consultation >>= next) fun hash operation => condition ∧ sent hash operation := by
  have both : Sends net (consultation >>= next) fun hash operation =>
      ∃ found, (condition ∧ value = found) ∧ sent hash operation := by
    apply first.sends
    rintro found ⟨held, rfl⟩
    exact follows held
  apply both.congr
  intro hash operation
  constructor
  · rintro ⟨found, ⟨held, -⟩, ends⟩
    exact ⟨held, ends⟩
  · rintro ⟨held, ends⟩
    exact ⟨value, ⟨held, rfl⟩, ends⟩

/-- Behind a look that always succeeds an operation is sent as with the value found. -/
theorem Finds.sends_eq {value : α} {sent : Hash → Operation → Prop}
    {consultation : Consultation α} {next : α → Consultation Hash}
    (first : Finds net consultation (value = ·)) (follows : Sends net (next value) sent) :
    Sends net (consultation >>= next) sent := by
  have known : Finds net consultation fun found => True ∧ value = found :=
    first.congr fun _ => ⟨And.intro trivial, And.right⟩
  exact (known.sends_if fun _ => follows).congr fun _ _ => ⟨And.right, And.intro trivial⟩

/-- Holding a lock changes nothing on a net, where every lock is free. -/
theorem Sends.holding (clear : net.outages = []) {action : Consultation Hash}
    {holds : Hash → Operation → Prop} (sends : Sends net action holds) (sender : Address) :
    Sends net (Services.holding sender action) holds := by
  have held : ∀ {outcome : Except Failure Hash} {after : LocalNet}, after.outages = [] →
      Yields net action outcome after → Yields net (Services.holding sender action) outcome after := by
    intro outcome after free yields
    have released : Yields after
        (Services.asking (.release sender) fun _ => .ofExcept outcome) outcome after :=
      Yields.asking free (.release sender) trivial (.ofExcept outcome)
    exact Yields.asking clear (.acquire sender) trivial (yields.attempt.bind released)
  rcases sends with ⟨hash, operation, found, yields⟩ | ⟨never, failure, yields⟩
  · exact .inl ⟨hash, operation, found, held clear yields⟩
  · exact .inr ⟨never, failure, held clear yields⟩

end LocalNet

end AccountRelay
