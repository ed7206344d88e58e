/-! # Dialogues

A computation that depends on the world is a `Dialogue`: it ends with a value or a failure, or it
asks a question of an `Interface` and goes on with the answer. Nothing happens by itself, so one
dialogue can be held with a simulated world, with the real one, or step by step beside others.

`Dialogue.run` holds a dialogue with a world of a given state; `Dialogue.interpret` answers its
questions by dialogues over another interface.
-/

namespace AccountRelay

/-- The questions that can be asked, and the type of the answer to each. -/
structure Interface where
  Request : Type
  Answer : Request → Type

namespace Interface

/-- The questions of two interfaces. -/
def sum (left right : Interface) : Interface where
  Request := left.Request ⊕ right.Request
  Answer
    | .inl request => left.Answer request
    | .inr request => right.Answer request

end Interface

/-- A computation that asks questions of an interface. -/
inductive Dialogue (I : Interface) (ε α : Type)
  | done (value : α)
  | fail (error : ε)
  | ask (request : I.Request) (next : I.Answer request → Dialogue I ε α)

namespace Dialogue

variable {I J : Interface} {ε ε' α β σ : Type}

/-- Goes on with the value of a dialogue. -/
def andThen : Dialogue I ε α → (α → Dialogue I ε β) → Dialogue I ε β
  | .done value, next => next value
  | .fail error, _ => .fail error
  | .ask request answer, next => .ask request fun reply => (answer reply).andThen next

instance : Monad (Dialogue I ε) where
  pure := .done
  bind := andThen

/-- A dialogue of a value alone is over at once. -/
@[simp] theorem pure_eq (value : α) : (pure value : Dialogue I ε α) = .done value := rfl

/-- What follows a dialogue that is over goes on from its value. -/
@[simp] theorem done_bind (value : α) (next : α → Dialogue I ε β) :
    (Dialogue.done value >>= next) = next value := rfl

/-- Nothing follows a dialogue that has failed. -/
@[simp] theorem fail_bind (error : ε) (next : α → Dialogue I ε β) :
    (Dialogue.fail error >>= next) = .fail error := rfl

/-- What follows a question follows each of its answers. -/
@[simp] theorem ask_bind (request : I.Request) (answer : I.Answer request → Dialogue I ε α)
    (next : α → Dialogue I ε β) :
    (Dialogue.ask request answer >>= next) = .ask request fun reply => answer reply >>= next := rfl

/-- The dialogue that ends as an outcome says. -/
def ofExcept : Except ε α → Dialogue I ε α
  | .ok value => .done value
  | .error error => .fail error

/-- The dialogue with its failure as a value. -/
def attempt : Dialogue I ε α → Dialogue I ε' (Except ε α)
  | .done value => .done (.ok value)
  | .fail error => .done (.error error)
  | .ask request answer => .ask request fun reply => (answer reply).attempt

/-- The dialogue with its failure changed. -/
def mapError (change : ε → ε') : Dialogue I ε α → Dialogue I ε' α
  | .done value => .done value
  | .fail error => .fail (change error)
  | .ask request answer => .ask request fun reply => (answer reply).mapError change

/-- The dialogue with its questions answered by dialogues over another interface. -/
def interpret (answer : (request : I.Request) → Dialogue J ε (I.Answer request)) :
    Dialogue I ε α → Dialogue J ε α
  | .done value => .done value
  | .fail error => .fail error
  | .ask request next => answer request >>= fun reply => (next reply).interpret answer

/-- The dialogue over the first of two interfaces. -/
def inl (dialogue : Dialogue I ε α) : Dialogue (I.sum J) ε α :=
  dialogue.interpret fun request => .ask (.inl request : (I.sum J).Request) .done

/-- The dialogue over the second of two interfaces. -/
def inr (dialogue : Dialogue J ε α) : Dialogue (I.sum J) ε α :=
  dialogue.interpret fun request => .ask (.inr request : (I.sum J).Request) .done

/-- Holds a dialogue with a world whose state answers change. -/
def run (answer : (request : I.Request) → σ → I.Answer request × σ) :
    Dialogue I ε α → σ → Except ε α × σ
  | .done value, state => (.ok value, state)
  | .fail error, state => (.error error, state)
  | .ask request next, state =>
    let (reply, state) := answer request state
    (next reply).run answer state

/-- The answers of two worlds to the questions of two interfaces. -/
def answerEither {τ : Type} (left : (request : I.Request) → σ → I.Answer request × σ)
    (right : (request : J.Request) → τ → J.Answer request × τ) :
    (request : (I.sum J).Request) → σ × τ → (I.sum J).Answer request × (σ × τ)
  | .inl request, (first, second) =>
    let (reply, first) := left request first
    (reply, (first, second))
  | .inr request, (first, second) =>
    let (reply, second) := right request second
    (reply, (first, second))

/-- Holds a dialogue with a world that answers in a monad. -/
def perform {m : Type → Type} [Monad m] (answer : (request : I.Request) → m (I.Answer request)) :
    Dialogue I ε α → m (Except ε α)
  | .done value => pure (.ok value)
  | .fail error => pure (.error error)
  | .ask request next => do
    let reply ← answer request
    (next reply).perform answer

/-- A dialogue that is over moves no state. -/
@[simp] theorem run_done (answer : (request : I.Request) → σ → I.Answer request × σ) (value : α)
    (state : σ) : (Dialogue.done value : Dialogue I ε α).run answer state = (.ok value, state) :=
  rfl

/-- A dialogue that has failed moves no state. -/
@[simp] theorem run_fail (answer : (request : I.Request) → σ → I.Answer request × σ) (error : ε)
    (state : σ) : (Dialogue.fail error : Dialogue I ε α).run answer state = (.error error, state) :=
  rfl

/-- A dialogue that goes on is held up to its end and then from there. -/
theorem run_bind (answer : (request : I.Request) → σ → I.Answer request × σ)
    (dialogue : Dialogue I ε α) (next : α → Dialogue I ε β) (state : σ) :
    (dialogue >>= next).run answer state =
      match dialogue.run answer state with
      | (.ok value, state) => (next value).run answer state
      | (.error error, state) => (.error error, state) := by
  induction dialogue generalizing state with
  | done value => rfl
  | fail error => rfl
  | ask request follow ih => exact ih _ _

/-- The failure of an attempt is its value, and the world is left as it was left. -/
theorem run_attempt (answer : (request : I.Request) → σ → I.Answer request × σ)
    (dialogue : Dialogue I ε α) (state : σ) :
    (dialogue.attempt : Dialogue I ε' (Except ε α)).run answer state =
      (.ok (dialogue.run answer state).1, (dialogue.run answer state).2) := by
  induction dialogue generalizing state with
  | done value => rfl
  | fail error => rfl
  | ask request follow ih => exact ih _ _

/-- A change of failures changes the failure that a dialogue ends with. -/
theorem run_mapError (answer : (request : I.Request) → σ → I.Answer request × σ)
    (change : ε → ε') (dialogue : Dialogue I ε α) (state : σ) :
    (dialogue.mapError change).run answer state =
      ((dialogue.run answer state).1.mapError change, (dialogue.run answer state).2) := by
  induction dialogue generalizing state with
  | done value => rfl
  | fail error => rfl
  | ask request follow ih => exact ih _ _

end Dialogue

end AccountRelay
