import AccountRelay.Dialogue

/-! # Conduct of a dialogue

A `Conduct` says how a dialogue may go: which questions are permitted in a state, which answers are
to be expected, and how an answer changes the state. A dialogue keeps a conduct when it asks only
what is permitted, whatever the expected answers are, and ends with an outcome and a state of a given
kind (`Dialogue.Keeps`). The kind is carried through the ways in which dialogues are put together
(`Keeps.bind`, `Keeps.attempt`, `Keeps.mapError`).
-/

namespace AccountRelay

/-- What may be asked, which answers are to be expected, and what they change. -/
structure Conduct (I : Interface) (σ : Type) where
  permits : σ → I.Request → Prop
  expects : (request : I.Request) → I.Answer request → Prop
  next : σ → (request : I.Request) → I.Answer request → σ

namespace Dialogue

variable {I : Interface} {ε ε' α β σ : Type}

/-- A dialogue that asks only what its conduct permits, and ends as a condition says. -/
def Keeps (conduct : Conduct I σ) (ends : Except ε α → σ → Prop) : Dialogue I ε α → σ → Prop
  | .done value, state => ends (.ok value) state
  | .fail error, state => ends (.error error) state
  | .ask request next, state =>
    conduct.permits state request ∧
      ∀ reply, conduct.expects request reply →
        (next reply).Keeps conduct ends (conduct.next state request reply)

namespace Keeps

variable {conduct : Conduct I σ} {ends : Except ε α → σ → Prop} {state : σ}

/-- What is kept to the end may be weakened there. -/
theorem mono {ends' : Except ε α → σ → Prop} {dialogue : Dialogue I ε α}
    (keeps : dialogue.Keeps conduct ends state)
    (weaker : ∀ outcome state, ends outcome state → ends' outcome state) :
    dialogue.Keeps conduct ends' state := by
  induction dialogue generalizing state with
  | done value => exact weaker _ _ keeps
  | fail error => exact weaker _ _ keeps
  | ask request next ih =>
      refine ⟨keeps.1, ?_⟩
      intro reply expected
      exact ih reply (keeps.2 reply expected)

/-- A dialogue that goes on keeps a conduct when its first part does, and what follows does from
wherever the first part ends. -/
theorem bind {ends' : Except ε β → σ → Prop} {dialogue : Dialogue I ε α}
    {next : α → Dialogue I ε β} (keeps : dialogue.Keeps conduct ends state)
    (goes_on : ∀ value state, ends (.ok value) state → (next value).Keeps conduct ends' state)
    (gives_up : ∀ error state, ends (.error error) state → ends' (.error error) state) :
    (dialogue >>= next).Keeps conduct ends' state := by
  induction dialogue generalizing state with
  | done value => exact goes_on value state keeps
  | fail error => exact gives_up error state keeps
  | ask request follow ih =>
      refine ⟨keeps.1, ?_⟩
      intro reply expected
      exact ih reply (keeps.2 reply expected)

/-- A dialogue that catches its failure keeps what it kept, with the outcome as its value. -/
theorem attempt {ends' : Except ε' (Except ε α) → σ → Prop} {dialogue : Dialogue I ε α}
    (keeps : dialogue.Keeps conduct (fun outcome state => ends' (.ok outcome) state) state) :
    (dialogue.attempt : Dialogue I ε' (Except ε α)).Keeps conduct ends' state := by
  induction dialogue generalizing state with
  | done value => exact keeps
  | fail error => exact keeps
  | ask request follow ih =>
      refine ⟨keeps.1, ?_⟩
      intro reply expected
      exact ih reply (keeps.2 reply expected)

/-- A dialogue whose errors are translated keeps what it kept, up to that translation. -/
theorem mapError {ends' : Except ε' α → σ → Prop} {change : ε → ε'} {dialogue : Dialogue I ε α}
    (keeps : dialogue.Keeps conduct (fun outcome state => ends' (outcome.mapError change) state)
      state) :
    (dialogue.mapError change).Keeps conduct ends' state := by
  induction dialogue generalizing state with
  | done value => exact keeps
  | fail error => exact keeps
  | ask request follow ih =>
      refine ⟨keeps.1, ?_⟩
      intro reply expected
      exact ih reply (keeps.2 reply expected)

/-- A result that is there already keeps what holds of it. -/
theorem ofExcept {outcome : Except ε α} (ended : ends outcome state) :
    (Dialogue.ofExcept outcome : Dialogue I ε α).Keeps conduct ends state := by
  cases outcome with
  | ok value => exact ended
  | error error => exact ended

end Keeps

end Dialogue

end AccountRelay
