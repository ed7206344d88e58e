import AccountRelay.Proofs.Dialogue.Conduct
import AccountRelay.Proofs.Dialogue.Exchanges

/-! # Dialogues that answer dialogues, and conduct by history

A dialogue whose questions are answered by dialogues over another interface comes apart where it was
put together (`Dialogue.interpret_bind`), and asks what the answering dialogues ask
(`Dialogue.Asks.interpret`). If the answering dialogues never fail, the exchanges of the upper dialogue
can be told from those below (`Dialogue.Ends.of_interpret`). When only some questions are answered, and
on the spot, they can be told from the exchanges that are left
(`Dialogue.Ends.of_interpret_onTheSpot`).

What a dialogue may ask can depend on all that was exchanged so far (`Conduct.byHistory`). A dialogue
that keeps such a conduct has added to the history just the exchanges that it ends with
(`Dialogue.Keeps.exchanged`).
-/

namespace AccountRelay

variable {I J : Interface} {ε ε' α β γ : Type}

namespace Dialogue

/-! ## Interpretations -/

/-- It does not matter how dialogues that follow each other are grouped. -/
theorem bind_assoc (dialogue : Dialogue I ε α) (next : α → Dialogue I ε β)
    (last : β → Dialogue I ε γ) :
    (dialogue >>= next) >>= last = dialogue >>= fun value => next value >>= last := by
  induction dialogue with
  | done value => rfl
  | fail error => rfl
  | ask request follow ih => exact congrArg _ (funext ih)

/-- A dialogue that goes on with its own value is the dialogue. -/
theorem bind_done (dialogue : Dialogue I ε α) : (dialogue >>= fun value => .done value) = dialogue := by
  induction dialogue with
  | done value => rfl
  | fail error => rfl
  | ask request follow ih => exact congrArg _ (funext ih)

/-- A dialogue is answered part by part. -/
theorem interpret_bind (answer : (request : I.Request) → Dialogue J ε (I.Answer request))
    (dialogue : Dialogue I ε α) (next : α → Dialogue I ε β) :
    (dialogue >>= next).interpret answer =
      dialogue.interpret answer >>= fun value => (next value).interpret answer := by
  induction dialogue with
  | done value => rfl
  | fail error => rfl
  | ask request follow ih =>
      rw [ask_bind, interpret, interpret, bind_assoc]
      exact congrArg _ (funext ih)

/-- Answers that are themselves answered are answers. -/
theorem interpret_interpret {K : Interface}
    (answer : (request : I.Request) → Dialogue J ε (I.Answer request))
    (serve : (request : J.Request) → Dialogue K ε (J.Answer request)) (dialogue : Dialogue I ε α) :
    (dialogue.interpret answer).interpret serve =
      dialogue.interpret fun request => (answer request).interpret serve := by
  induction dialogue with
  | done value => rfl
  | fail error => rfl
  | ask request follow ih =>
      rw [interpret, interpret_bind]
      exact congrArg _ (funext ih)

/-- A dialogue over the first of two interfaces is answered as the answers to that one say. -/
theorem interpret_inl {K : Interface}
    (answer : (request : (I.sum J).Request) → Dialogue K ε ((I.sum J).Answer request))
    (dialogue : Dialogue I ε α) :
    (dialogue.inl : Dialogue (I.sum J) ε α).interpret answer =
      dialogue.interpret fun request => answer (.inl request) := by
  induction dialogue with
  | done value => rfl
  | fail error => rfl
  | ask request follow ih => exact congrArg (answer (.inl request) >>= ·) (funext ih)

/-- A dialogue over the second of two interfaces is answered as the answers to that one say. -/
theorem interpret_inr {K : Interface}
    (answer : (request : (I.sum J).Request) → Dialogue K ε ((I.sum J).Answer request))
    (dialogue : Dialogue J ε α) :
    (dialogue.inr : Dialogue (I.sum J) ε α).interpret answer =
      dialogue.interpret fun request => answer (.inr request) := by
  induction dialogue with
  | done value => rfl
  | fail error => rfl
  | ask request follow ih => exact congrArg (answer (.inr request) >>= ·) (funext ih)

/-- A dialogue that goes on goes on over the first of two interfaces. -/
theorem inl_bind (dialogue : Dialogue I ε α) (next : α → Dialogue I ε β) :
    ((dialogue >>= next).inl : Dialogue (I.sum J) ε β) = dialogue.inl >>= fun value => (next value).inl :=
  interpret_bind _ dialogue next

/-- The failure of a dialogue over the first of two interfaces is changed as that of the dialogue. -/
theorem inl_mapError (change : ε → ε') (dialogue : Dialogue I ε α) :
    ((dialogue.mapError change).inl : Dialogue (I.sum J) ε' α) = dialogue.inl.mapError change := by
  induction dialogue with
  | done value => rfl
  | fail error => rfl
  | ask request follow ih => exact congrArg (Dialogue.ask _) (funext ih)

/-- When questions are answered by dialogues, just what those ask is asked. -/
theorem Asks.interpret {asked : I.Request → Prop} {allowed : J.Request → Prop}
    {answer : (request : I.Request) → Dialogue J ε (I.Answer request)} {dialogue : Dialogue I ε α}
    (asks : dialogue.Asks asked) (answers : ∀ request, asked request → (answer request).Asks allowed) :
    (dialogue.interpret answer).Asks allowed := by
  induction dialogue with
  | done value => trivial
  | fail error => trivial
  | ask request follow ih =>
      exact (answers request asks.1).bind fun reply => ih reply (asks.2 reply)

/-- A kind that all questions are of is that of any dialogue's. -/
theorem asks_any (dialogue : Dialogue I ε α) : dialogue.Asks fun _ => True := by
  induction dialogue with
  | done value => trivial
  | fail error => trivial
  | ask request follow ih => exact ⟨trivial, ih⟩

namespace Ends

variable {first rest : List (Exchange I)}

/-- When the first part ends with a value and the next one goes on from it, both have ended with the
exchanges of both. -/
theorem of_bind {dialogue : Dialogue I ε α} {next : α → Dialogue I ε β} {value : α}
    {outcome : Except ε β} (ends : dialogue.Ends first (.ok value))
    (follows : (next value).Ends rest outcome) : (dialogue >>= next).Ends (first ++ rest) outcome := by
  induction dialogue generalizing first with
  | done own =>
      obtain ⟨rfl, same⟩ := ends
      cases same
      exact follows
  | fail error => exact nomatch ends.2
  | ask request follow ih =>
      obtain ⟨reply, behind, rfl, ends⟩ := ends
      exact ⟨reply, behind ++ rest, rfl, ih reply ends⟩

/-- When the first part fails, the next one is not reached. -/
theorem of_bind_error {dialogue : Dialogue I ε α} {next : α → Dialogue I ε β} {error : ε}
    (ends : dialogue.Ends first (.error error)) : (dialogue >>= next).Ends first (.error error) := by
  induction dialogue generalizing first with
  | done value => exact nomatch ends.2
  | fail own =>
      obtain ⟨rfl, same⟩ := ends
      cases same
      exact ⟨rfl, rfl⟩
  | ask request follow ih =>
      obtain ⟨reply, behind, rfl, ends⟩ := ends
      exact ⟨reply, behind, rfl, ih reply ends⟩

/-- An attempt has the exchanges of what is attempted, and its outcome for a value. -/
theorem of_attempt {dialogue : Dialogue I ε α} {outcome : Except ε α}
    (ends : dialogue.Ends first outcome) :
    (dialogue.attempt : Dialogue I ε' (Except ε α)).Ends first (.ok outcome) := by
  induction dialogue generalizing first with
  | done value => exact ⟨ends.1, congrArg _ ends.2⟩
  | fail error => exact ⟨ends.1, congrArg _ ends.2⟩
  | ask request follow ih =>
      obtain ⟨reply, behind, rfl, ends⟩ := ends
      exact ⟨reply, behind, rfl, ih reply ends⟩

/-- A change of failures changes no exchange. -/
theorem of_mapError {change : ε → ε'} {dialogue : Dialogue I ε α} {outcome : Except ε α}
    (ends : dialogue.Ends first outcome) :
    (dialogue.mapError change).Ends first (outcome.mapError change) := by
  induction dialogue generalizing first with
  | done value =>
      obtain ⟨rfl, rfl⟩ := ends
      exact ⟨rfl, rfl⟩
  | fail error =>
      obtain ⟨rfl, rfl⟩ := ends
      exact ⟨rfl, rfl⟩
  | ask request follow ih =>
      obtain ⟨reply, behind, rfl, ends⟩ := ends
      exact ⟨reply, behind, rfl, ih reply ends⟩

/-- Over the first of two interfaces a dialogue has the same exchanges. -/
theorem of_inl {dialogue : Dialogue I ε α} {outcome : Except ε α}
    (ends : dialogue.Ends first outcome) :
    (dialogue.inl : Dialogue (I.sum J) ε α).Ends (first.map Exchange.inl) outcome := by
  induction dialogue generalizing first with
  | done value => exact ⟨congrArg _ ends.1, ends.2⟩
  | fail error => exact ⟨congrArg _ ends.1, ends.2⟩
  | ask request follow ih =>
      obtain ⟨reply, behind, rfl, ends⟩ := ends
      exact ⟨reply, behind.map Exchange.inl, rfl, ih reply ends⟩

/-- Over the second of two interfaces a dialogue has the same exchanges. -/
theorem of_inr {dialogue : Dialogue J ε α} {exchanges : List (Exchange J)} {outcome : Except ε α}
    (ends : dialogue.Ends exchanges outcome) :
    (dialogue.inr : Dialogue (I.sum J) ε α).Ends (exchanges.map Exchange.inr) outcome := by
  induction dialogue generalizing exchanges with
  | done value => exact ⟨congrArg _ ends.1, ends.2⟩
  | fail error => exact ⟨congrArg _ ends.1, ends.2⟩
  | ask request follow ih =>
      obtain ⟨reply, behind, rfl, ends⟩ := ends
      exact ⟨reply, behind.map Exchange.inr, rfl, ih reply ends⟩

/-- What an attempt makes a value of is the end of the dialogue itself. -/
theorem of_interpret_attempt {answer : (request : I.Request) → Dialogue J ε (I.Answer request)}
    {dialogue : Dialogue I ε α} {exchanges : List (Exchange J)} {attempted : Except ε α}
    (ends : ((dialogue.attempt : Dialogue I ε (Except ε α)).interpret answer).Ends exchanges
      (.ok attempted)) : (dialogue.interpret answer).Ends exchanges attempted := by
  induction dialogue generalizing exchanges with
  | done value => exact ⟨ends.1, Except.ok.inj ends.2⟩
  | fail error => exact ⟨ends.1, Except.ok.inj ends.2⟩
  | ask request follow ih =>
      rcases bind ends with ⟨error, same, -⟩ | ⟨first, rest, reply, rfl, answered, follows⟩
      · exact nomatch same
      · exact of_bind answered (ih reply follows)

end Ends

/-- How questions are served by one who answers them by dialogues of another interface. -/
def Serves (answer : (request : I.Request) → Dialogue J ε (I.Answer request)) :
    List (Exchange I) → List (Exchange J) → Prop
  | [], below => below = []
  | exchange :: rest, below =>
    ∃ own behind, below = own ++ behind ∧
      (answer exchange.request).Ends own (.ok exchange.reply) ∧ Serves answer rest behind

/-- What is so of all exchanges that an answering dialogue can serve is so of those that were served.
-/
theorem Serves.forall_mem {answer : (request : I.Request) → Dialogue J ε (I.Answer request)}
    {exchanges : List (Exchange I)} {below : List (Exchange J)} (serves : Serves answer exchanges below)
    {holds : Exchange I → Prop} (answers : ∀ exchange own,
      (answer exchange.request).Ends own (.ok exchange.reply) → holds exchange) :
    ∀ exchange ∈ exchanges, holds exchange := by
  induction exchanges generalizing below with
  | nil => exact nofun
  | cons exchange rest ih =>
      obtain ⟨own, behind, rfl, answered, serves⟩ := serves
      exact List.forall_mem_cons.mpr ⟨answers exchange own answered, ih serves⟩

/-- What was exchanged for an answer was exchanged below. -/
theorem Serves.exists_own {answer : (request : I.Request) → Dialogue J ε (I.Answer request)}
    {exchanges : List (Exchange I)} {below : List (Exchange J)} (serves : Serves answer exchanges below)
    {exchange : Exchange I} (member : exchange ∈ exchanges) :
    ∃ own, (answer exchange.request).Ends own (.ok exchange.reply) ∧ own ⊆ below := by
  induction exchanges generalizing below with
  | nil => cases member
  | cons first rest ih =>
      obtain ⟨here, behind, rfl, answered, serves⟩ := serves
      rcases List.mem_cons.mp member with rfl | later
      · exact ⟨here, answered, List.subset_append_left here behind⟩
      · obtain ⟨own, answered, within⟩ := ih serves later
        exact ⟨own, answered, List.subset_append_of_subset_right here within⟩

/-- What holds of the exchanges of every answer holds of all exchanges below. -/
theorem Serves.forall_mem_below {answer : (request : I.Request) → Dialogue J ε (I.Answer request)}
    {exchanges : List (Exchange I)} {below : List (Exchange J)} (serves : Serves answer exchanges below)
    {holds : Exchange J → Prop} (answers : ∀ exchange own, exchange ∈ exchanges →
      (answer exchange.request).Ends own (.ok exchange.reply) → ∀ exchange ∈ own, holds exchange) :
    ∀ exchange ∈ below, holds exchange := by
  induction exchanges generalizing below with
  | nil =>
      cases serves
      exact nofun
  | cons exchange rest ih =>
      obtain ⟨own, behind, rfl, answered, serves⟩ := serves
      refine List.forall_mem_append.mpr ⟨answers exchange own List.mem_cons_self answered, ?_⟩
      exact ih serves fun other own member => answers other own (List.mem_cons_of_mem _ member)

/-- Who is served without fail ends as the dialogue does with the answers that it got. -/
theorem Ends.of_interpret {answer : (request : I.Request) → Dialogue J ε (I.Answer request)}
    (never_fails : ∀ request own error, ¬ (answer request).Ends own (.error error))
    {dialogue : Dialogue I ε α} {below : List (Exchange J)} {outcome : Except ε α}
    (ends : (dialogue.interpret answer).Ends below outcome) :
    ∃ exchanges, dialogue.Ends exchanges outcome ∧ Serves answer exchanges below := by
  induction dialogue generalizing below with
  | done value => exact ⟨[], ⟨rfl, ends.2⟩, ends.1⟩
  | fail error => exact ⟨[], ⟨rfl, ends.2⟩, ends.1⟩
  | ask request follow ih =>
      rcases ends.bind with ⟨error, -, failed⟩ | ⟨own, behind, reply, rfl, answered, follows⟩
      · exact absurd failed (never_fails request _ error)
      · obtain ⟨exchanges, ends, serves⟩ := ih reply follows
        exact ⟨⟨request, reply⟩ :: exchanges, ⟨reply, exchanges, rfl, ends⟩,
          own, behind, rfl, answered, serves⟩

/-- Who is served in the course of a dialogue ends as the dialogue does. -/
theorem Ends.of_serves {answer : (request : I.Request) → Dialogue J ε (I.Answer request)}
    {dialogue : Dialogue I ε α} {exchanges : List (Exchange I)} {below : List (Exchange J)}
    {outcome : Except ε α} (ends : dialogue.Ends exchanges outcome)
    (serves : Serves answer exchanges below) : (dialogue.interpret answer).Ends below outcome := by
  induction dialogue generalizing exchanges below with
  | done value =>
      obtain ⟨rfl, rfl⟩ := ends
      exact ⟨serves, rfl⟩
  | fail error =>
      obtain ⟨rfl, rfl⟩ := ends
      exact ⟨serves, rfl⟩
  | ask request follow ih =>
      obtain ⟨reply, rest, rfl, ends⟩ := ends
      obtain ⟨own, behind, rfl, answered, serves⟩ := serves
      exact answered.of_bind (ih reply ends serves)

/-! ## Questions that are answered on the spot -/

/-- Asks the questions of one interface and answers those of another on the spot. -/
def onTheSpot (reply : (request : J.Request) → J.Answer request) :
    (request : (I.sum J).Request) → Dialogue I ε ((I.sum J).Answer request)
  | .inl request => .ask request .done
  | .inr request => .done (reply request)

variable {reply : (request : J.Request) → J.Answer request}

/-- A dialogue whose questions are passed on as they are is the dialogue. -/
theorem interpret_ask (dialogue : Dialogue I ε α) :
    dialogue.interpret (fun request => .ask request .done) = dialogue := by
  induction dialogue with
  | done value => rfl
  | fail error => rfl
  | ask request follow ih => exact congrArg (Dialogue.ask request) (funext ih)

/-- Over the first interface nothing is answered on the spot. -/
@[simp]
theorem interpret_onTheSpot_inl (dialogue : Dialogue I ε α) :
    (dialogue.inl : Dialogue (I.sum J) ε α).interpret (onTheSpot reply) = dialogue := by
  rw [interpret_inl]
  exact interpret_ask dialogue

/-- An attempt may be answered on the spot before or after it is one. -/
@[simp]
theorem interpret_onTheSpot_attempt (dialogue : Dialogue (I.sum J) ε α) :
    (dialogue.attempt : Dialogue (I.sum J) ε' (Except ε α)).interpret (onTheSpot reply) =
      (dialogue.interpret (onTheSpot reply)).attempt := by
  induction dialogue with
  | done value => rfl
  | fail error => rfl
  | ask request follow ih =>
      cases request with
      | inl request => exact congrArg (Dialogue.ask request) (funext ih)
      | inr request => exact ih (reply request)

/-- An outcome has nothing to answer. -/
@[simp]
theorem interpret_onTheSpot_ofExcept (outcome : Except ε α) :
    (Dialogue.ofExcept outcome : Dialogue (I.sum J) ε α).interpret (onTheSpot reply) =
      .ofExcept outcome := by
  cases outcome with
  | ok value => rfl
  | error error => rfl

/-- The exchanges of a dialogue some of whose questions are answered on the spot are those that are left
when it asks them, too. -/
theorem Ends.of_interpret_onTheSpot {dialogue : Dialogue (I.sum J) ε α}
    {exchanges : List (Exchange I)} {outcome : Except ε α}
    (ends : (dialogue.interpret (onTheSpot reply)).Ends exchanges outcome) :
    ∃ shown : List (Exchange (I.sum J)), shown.filterMap Exchange.left? = exchanges ∧
      (∀ exchange ∈ shown.filterMap Exchange.right?, exchange.reply = reply exchange.request) ∧
      dialogue.Ends shown outcome := by
  induction dialogue generalizing exchanges with
  | done value => exact ⟨[], ends.1.symm, nofun, rfl, ends.2⟩
  | fail error => exact ⟨[], ends.1.symm, nofun, rfl, ends.2⟩
  | ask request follow ih =>
      cases request with
      | inl request =>
          obtain ⟨answer, rest, rfl, ends⟩ := ends
          obtain ⟨shown, rfl, answered, ends⟩ := ih answer ends
          exact ⟨⟨.inl request, answer⟩ :: shown, rfl, answered, answer, shown, rfl, ends⟩
      | inr request =>
          obtain ⟨shown, rfl, answered, ends⟩ := ih (reply request) ends
          exact ⟨⟨.inr request, reply request⟩ :: shown, rfl,
            List.forall_mem_cons.mpr ⟨rfl, answered⟩, reply request, shown, rfl, ends⟩

/-! ## Worlds -/

/-- A dialogue that goes on and succeeds in a world has succeeded in its first part, and from there. -/
theorem run_bind_ok {σ : Type} {answer : (request : I.Request) → σ → I.Answer request × σ}
    {dialogue : Dialogue I ε α} {next : α → Dialogue I ε β} {state after : σ} {result : β}
    (ends : (dialogue >>= next).run answer state = (.ok result, after)) :
    ∃ value middle, dialogue.run answer state = (.ok value, middle) ∧
      (next value).run answer middle = (.ok result, after) := by
  rw [run_bind] at ends
  split at ends
  · rename_i value middle first
    exact ⟨value, middle, first, ends⟩
  · cases ends

/-- In two worlds, a dialogue over the first interface is held with the first. -/
theorem run_inl {σ τ : Type} (left : (request : I.Request) → σ → I.Answer request × σ)
    (right : (request : J.Request) → τ → J.Answer request × τ) (dialogue : Dialogue I ε α) (first : σ)
    (second : τ) : (dialogue.inl : Dialogue (I.sum J) ε α).run (answerEither left right) (first, second) =
      ((dialogue.run left first).1, (dialogue.run left first).2, second) := by
  induction dialogue generalizing first with
  | done value => rfl
  | fail error => rfl
  | ask request follow ih => exact ih _ _

/-- In two worlds, a dialogue over the second interface is held with the second. -/
theorem run_inr {σ τ : Type} (left : (request : I.Request) → σ → I.Answer request × σ)
    (right : (request : J.Request) → τ → J.Answer request × τ) (dialogue : Dialogue J ε α) (first : σ)
    (second : τ) : (dialogue.inr : Dialogue (I.sum J) ε α).run (answerEither left right) (first, second) =
      ((dialogue.run right second).1, first, (dialogue.run right second).2) := by
  induction dialogue generalizing second with
  | done value => rfl
  | fail error => rfl
  | ask request follow ih => exact ih _ _

/-- How a world goes on in the course of exchanges. -/
def Follows {σ : Type} (answer : (request : I.Request) → σ → I.Answer request × σ) :
    σ → List (Exchange I) → σ → Prop
  | state, [], after => after = state
  | state, exchange :: rest, after =>
    ∃ middle, answer exchange.request state = (exchange.reply, middle) ∧
      Follows answer middle rest after

/-- A dialogue that is held with a world has had some exchanges, and the world has gone along. -/
theorem exists_follows_run {σ : Type} (answer : (request : I.Request) → σ → I.Answer request × σ)
    (dialogue : Dialogue I ε α) (state : σ) :
    ∃ exchanges, dialogue.Ends exchanges (dialogue.run answer state).1 ∧
      Follows answer state exchanges (dialogue.run answer state).2 := by
  induction dialogue generalizing state with
  | done value => exact ⟨[], ⟨rfl, rfl⟩, rfl⟩
  | fail error => exact ⟨[], ⟨rfl, rfl⟩, rfl⟩
  | ask request follow ih =>
      obtain ⟨rest, ends, follows⟩ := ih (answer request state).1 (answer request state).2
      exact ⟨_ :: rest, ⟨_, rest, rfl, ends⟩, _, rfl, follows⟩

/-- A dialogue that is held with a world has had some exchanges. -/
theorem exists_ends_run {σ : Type} (answer : (request : I.Request) → σ → I.Answer request × σ)
    (dialogue : Dialogue I ε α) (state : σ) :
    ∃ exchanges, dialogue.Ends exchanges (dialogue.run answer state).1 := by
  obtain ⟨exchanges, ends, -⟩ := exists_follows_run answer dialogue state
  exact ⟨exchanges, ends⟩

section

variable {σ : Type} {answer : (request : I.Request) → σ → I.Answer request × σ}
  {first rest exchanges : List (Exchange I)} {state after : σ}

/-- A world goes along with exchanges when it goes along with the first of them and from there with the
rest. -/
theorem follows_append_iff :
    Follows answer state (first ++ rest) after ↔
      ∃ middle, Follows answer state first middle ∧ Follows answer middle rest after := by
  induction first generalizing state with
  | nil => simp [Follows]
  | cons exchange behind ih =>
      constructor
      · rintro ⟨next, answered, follows⟩
        obtain ⟨middle, goes, goes_on⟩ := ih.mp follows
        exact ⟨middle, ⟨next, answered, goes⟩, goes_on⟩
      · rintro ⟨middle, ⟨next, answered, goes⟩, goes_on⟩
        exact ⟨next, answered, ih.mpr ⟨middle, goes, goes_on⟩⟩

/-- Every exchange has been answered in some state, of which holds what the answers keep. -/
theorem Follows.exists_answer_of_keeps (holds : σ → Prop)
    (keeps : ∀ request state, holds state → holds (answer request state).2) (held : holds state)
    (follows : Follows answer state exchanges after) :
    ∀ exchange ∈ exchanges, ∃ before later, holds before ∧
      answer exchange.request before = (exchange.reply, later) := by
  induction exchanges generalizing state with
  | nil => exact nofun
  | cons exchange rest ih =>
      obtain ⟨middle, answered, follows⟩ := follows
      have goes_on := keeps exchange.request state held
      rw [answered] at goes_on
      exact List.forall_mem_cons.mpr ⟨⟨state, middle, held, answered⟩, ih goes_on follows⟩

/-- Every exchange has been answered in some state. -/
theorem Follows.exists_answer (follows : Follows answer state exchanges after) :
    ∀ exchange ∈ exchanges, ∃ before later,
      answer exchange.request before = (exchange.reply, later) := by
  intro exchange member
  obtain ⟨before, later, -, answered⟩ :=
    follows.exists_answer_of_keeps (fun _ => True) (fun _ _ _ => trivial) trivial exchange member
  exact ⟨before, later, answered⟩

/-- A world that the questions do not change is left as it was. -/
theorem Follows.after_eq {allowed : I.Request → Prop}
    (inert : ∀ request, allowed request → ∀ state, (answer request state).2 = state)
    (asked : ∀ exchange ∈ exchanges, allowed exchange.request)
    (follows : Follows answer state exchanges after) : after = state := by
  induction exchanges generalizing state with
  | nil => exact follows
  | cons exchange rest ih =>
      obtain ⟨here, behind⟩ := List.forall_mem_cons.mp asked
      obtain ⟨middle, answered, follows⟩ := follows
      rw [ih behind follows, ← inert exchange.request here state, answered]

end

/-- A world that goes along with the exchanges of a dialogue lets it end as they do. -/
theorem Ends.run_of_follows {σ : Type} {answer : (request : I.Request) → σ → I.Answer request × σ}
    {dialogue : Dialogue I ε α} {exchanges : List (Exchange I)} {outcome : Except ε α} {state after : σ}
    (ends : dialogue.Ends exchanges outcome) (follows : Follows answer state exchanges after) :
    dialogue.run answer state = (outcome, after) := by
  induction dialogue generalizing exchanges state with
  | done value =>
      obtain ⟨rfl, rfl⟩ := ends
      obtain rfl : after = state := follows
      rfl
  | fail error =>
      obtain ⟨rfl, rfl⟩ := ends
      obtain rfl : after = state := follows
      rfl
  | ask request follow ih =>
      obtain ⟨reply, rest, rfl, ends⟩ := ends
      obtain ⟨middle, answered, follows⟩ := follows
      have answered : answer request state = (reply, middle) := answered
      simp only [run, answered]
      exact ih reply ends follows

end Dialogue

/-! ## Conduct along exchanges -/

/-- Whether a conduct permits exchanges, one after the other, and where they lead. -/
def Conduct.Allows {σ : Type} (conduct : Conduct I σ) : σ → List (Exchange I) → σ → Prop
  | state, [], after => after = state
  | state, exchange :: rest, after =>
    conduct.permits state exchange.request ∧
      conduct.Allows (conduct.next state exchange.request exchange.reply) rest after

/-- A dialogue that keeps a conduct has had permitted exchanges only, if its answers were expected. -/
theorem Dialogue.Keeps.allows {σ : Type} {conduct : Conduct I σ} {dialogue : Dialogue I ε α} {state : σ}
    {ends : Except ε α → σ → Prop} {exchanges : List (Exchange I)} {outcome : Except ε α}
    (keeps : dialogue.Keeps conduct ends state) (ended : dialogue.Ends exchanges outcome)
    (expected : ∀ exchange ∈ exchanges, conduct.expects exchange.request exchange.reply) :
    ∃ after, conduct.Allows state exchanges after ∧ ends outcome after := by
  induction dialogue generalizing state exchanges with
  | done value =>
      obtain ⟨rfl, rfl⟩ := ended
      exact ⟨state, rfl, keeps⟩
  | fail error =>
      obtain ⟨rfl, rfl⟩ := ended
      exact ⟨state, rfl, keeps⟩
  | ask request follow ih =>
      obtain ⟨reply, rest, rfl, ended⟩ := ended
      obtain ⟨answered, expected⟩ := List.forall_mem_cons.mp expected
      obtain ⟨after, allows, reached⟩ := ih reply (keeps.2 reply answered) ended expected
      exact ⟨after, ⟨keeps.1, allows⟩, reached⟩

/-! ## Conduct by history -/

/-- The conduct that permits a question according to what was exchanged before. -/
def Conduct.byHistory (permits : List (Exchange I) → I.Request → Prop) :
    Conduct I (List (Exchange I)) where
  permits := permits
  expects := fun _ _ => True
  next := fun heard request reply => heard ++ [⟨request, reply⟩]

namespace Dialogue.Keeps

variable {permits : List (Exchange I) → I.Request → Prop} {heard : List (Exchange I)}
  {ends : Except ε α → List (Exchange I) → Prop} {dialogue : Dialogue I ε α}

/-- What a dialogue that keeps a conduct by history has added to the history are the exchanges that it
ends with. -/
theorem exchanged (keeps : dialogue.Keeps (.byHistory permits) ends heard) :
    dialogue.Keeps (.byHistory permits) (fun outcome after =>
      ends outcome after ∧ ∃ own, after = heard ++ own ∧ dialogue.Ends own outcome) heard := by
  induction dialogue generalizing heard with
  | done value => exact ⟨keeps, [], (List.append_nil _).symm, rfl, rfl⟩
  | fail error => exact ⟨keeps, [], (List.append_nil _).symm, rfl, rfl⟩
  | ask request follow ih =>
      refine ⟨keeps.1, ?_⟩
      intro reply expected
      apply mono (ih reply (keeps.2 reply expected))
      rintro outcome after ⟨ended, own, rfl, follows⟩
      exact ⟨ended, ⟨request, reply⟩ :: own, List.append_assoc _ _ _, reply, own, rfl, follows⟩

/-- A dialogue that keeps a conduct by history ends as the conduct says, behind its own exchanges. -/
theorem of_ends {exchanges : List (Exchange I)} {outcome : Except ε α}
    (keeps : dialogue.Keeps (.byHistory permits) ends heard)
    (ended : dialogue.Ends exchanges outcome) : ends outcome (heard ++ exchanges) := by
  induction dialogue generalizing heard exchanges with
  | done value =>
      obtain ⟨rfl, rfl⟩ := ended
      rw [List.append_nil]
      exact keeps
  | fail error =>
      obtain ⟨rfl, rfl⟩ := ended
      rw [List.append_nil]
      exact keeps
  | ask request follow ih =>
      obtain ⟨reply, rest, rfl, follows⟩ := ended
      rw [← List.singleton_append, ← List.append_assoc]
      exact ih reply (keeps.2 reply trivial) follows

/-- A dialogue keeps a conduct as long as its questions leave something be that permits them all. -/
theorem of_asks {allowed : I.Request → Prop} (asks : dialogue.Asks allowed)
    (holds : List (Exchange I) → Prop) (held : holds heard)
    (permitted : ∀ heard request, holds heard → allowed request → permits heard request)
    (stays : ∀ heard request reply, holds heard → allowed request →
      holds (heard ++ [⟨request, reply⟩])) :
    dialogue.Keeps (.byHistory permits) (fun _ => holds) heard := by
  induction dialogue generalizing heard with
  | done value => exact held
  | fail error => exact held
  | ask request follow ih =>
      refine ⟨permitted heard request held asks.1, ?_⟩
      intro reply _
      exact ih reply (asks.2 reply) (stays heard request reply held asks.1)

end Dialogue.Keeps

end AccountRelay
