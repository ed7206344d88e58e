import AccountRelay.Dialogue

/-! # Exchanges

An `Exchange` is a question and the answer that it got. `Dialogue.Ends` says that a dialogue whose
questions get the answers of given exchanges asks just these questions and ends with an outcome; so
what is true of all exchanges of a dialogue is true in every world. `Dialogue.Asks` says which
questions a dialogue asks at all.
-/

namespace AccountRelay

/-- A question and the answer to it. -/
structure Exchange (I : Interface) where
  request : I.Request
  reply : I.Answer request

namespace Exchange

variable {I J : Interface}

/-- The exchange as one over two interfaces, of which it is over the first. -/
def inl (exchange : Exchange I) : Exchange (I.sum J) :=
  ⟨.inl exchange.request, exchange.reply⟩

/-- The exchange as one over two interfaces, of which it is over the second. -/
def inr (exchange : Exchange J) : Exchange (I.sum J) :=
  ⟨.inr exchange.request, exchange.reply⟩

/-- The exchange over the first of two interfaces, if it is one. -/
def left? : Exchange (I.sum J) → Option (Exchange I)
  | ⟨.inl request, reply⟩ => some ⟨request, reply⟩
  | ⟨.inr _, _⟩ => none

/-- An exchange over the first interface is over the first. -/
@[simp]
theorem left?_inl (exchange : Exchange I) : (exchange.inl : Exchange (I.sum J)).left? = some exchange :=
  rfl

/-- An exchange over the second interface is none over the first. -/
@[simp]
theorem left?_inr (exchange : Exchange J) : (exchange.inr : Exchange (I.sum J)).left? = none := rfl

/-- The exchange over the second of two interfaces, if it is one. -/
def right? : Exchange (I.sum J) → Option (Exchange J)
  | ⟨.inl _, _⟩ => none
  | ⟨.inr request, reply⟩ => some ⟨request, reply⟩

/-- An exchange over the first interface is none over the second. -/
@[simp]
theorem right?_inl (exchange : Exchange I) : (exchange.inl : Exchange (I.sum J)).right? = none := rfl

/-- An exchange over the second interface is over the second. -/
@[simp]
theorem right?_inr (exchange : Exchange J) : (exchange.inr : Exchange (I.sum J)).right? = some exchange :=
  rfl

/-- Of exchanges over the first interface all are over the first. -/
theorem filterMap_left?_inl (exchanges : List (Exchange I)) :
    (exchanges.map (inl (J := J))).filterMap left? = exchanges := by
  simp [List.filterMap_map, Function.comp_def]

/-- Of exchanges over the second interface none is over the first. -/
theorem filterMap_left?_inr (exchanges : List (Exchange J)) :
    (exchanges.map (inr (I := I))).filterMap left? = [] := by
  simp [List.filterMap_map, Function.comp_def]

/-- Of exchanges over the first interface none is over the second. -/
theorem filterMap_right?_inl (exchanges : List (Exchange I)) :
    (exchanges.map (inl (J := J))).filterMap right? = [] := by
  simp [List.filterMap_map, Function.comp_def]

/-- Of exchanges over the second interface all are over the second. -/
theorem filterMap_right?_inr (exchanges : List (Exchange J)) :
    (exchanges.map (inr (I := I))).filterMap right? = exchanges := by
  simp [List.filterMap_map, Function.comp_def]

end Exchange

namespace Dialogue

variable {I J : Interface} {ε ε' α β : Type}

/-- A dialogue that asks the questions of exchanges and ends with an outcome when it gets their
answers. -/
def Ends : Dialogue I ε α → List (Exchange I) → Except ε α → Prop
  | .done value, exchanges, outcome => exchanges = [] ∧ outcome = .ok value
  | .fail error, exchanges, outcome => exchanges = [] ∧ outcome = .error error
  | .ask request next, exchanges, outcome =>
    ∃ reply rest, exchanges = ⟨request, reply⟩ :: rest ∧ (next reply).Ends rest outcome

/-- A dialogue that asks only questions of a kind. -/
def Asks (allowed : I.Request → Prop) : Dialogue I ε α → Prop
  | .done _ => True
  | .fail _ => True
  | .ask request next => allowed request ∧ ∀ reply, (next reply).Asks allowed

/-- Outcomes that follow each other are one outcome. -/
theorem ofExcept_bind (first : Except ε α) (next : α → Except ε β) :
    (ofExcept first >>= fun value => ofExcept (next value) : Dialogue I ε β) =
      ofExcept (first >>= next) := by
  cases first with
  | ok value => rfl
  | error error => rfl

namespace Ends

variable {exchanges : List (Exchange I)}

/-- An outcome ends at once, as it is. -/
theorem ofExcept {ending outcome : Except ε α}
    (ends : (Dialogue.ofExcept ending : Dialogue I ε α).Ends exchanges outcome) :
    exchanges = [] ∧ outcome = ending := by
  cases ending with
  | ok value => exact ends
  | error error => exact ends

/-- An outcome is how the dialogue of it ends. -/
theorem of_ofExcept (outcome : Except ε α) :
    (Dialogue.ofExcept outcome : Dialogue I ε α).Ends [] outcome := by
  cases outcome with
  | ok value => exact ⟨rfl, rfl⟩
  | error error => exact ⟨rfl, rfl⟩

/-- A dialogue that goes on has ended in its first part, or in what followed the value of that. -/
theorem bind {dialogue : Dialogue I ε α} {next : α → Dialogue I ε β} {outcome : Except ε β}
    (ends : (dialogue >>= next).Ends exchanges outcome) :
    (∃ error, outcome = .error error ∧ dialogue.Ends exchanges (.error error)) ∨
      ∃ first rest value, exchanges = first ++ rest ∧ dialogue.Ends first (.ok value) ∧
        (next value).Ends rest outcome := by
  induction dialogue generalizing exchanges with
  | done value => exact .inr ⟨[], exchanges, value, rfl, ⟨rfl, rfl⟩, ends⟩
  | fail error => exact .inl ⟨error, ends.2, ends.1, rfl⟩
  | ask request follow ih =>
      obtain ⟨reply, rest, rfl, follows⟩ := ends
      rcases ih reply follows with ⟨error, failed, ended⟩ | ⟨first, rest, value, rfl, ended, goes⟩
      · exact .inl ⟨error, failed, reply, _, rfl, ended⟩
      · exact .inr ⟨⟨request, reply⟩ :: first, rest, value, rfl, ⟨reply, first, rfl, ended⟩, goes⟩

/-- A dialogue that succeeds has succeeded in its first part, and in what followed. -/
theorem bind_ok {dialogue : Dialogue I ε α} {next : α → Dialogue I ε β} {result : β}
    (ends : (dialogue >>= next).Ends exchanges (.ok result)) :
    ∃ first rest value, exchanges = first ++ rest ∧ dialogue.Ends first (.ok value) ∧
      (next value).Ends rest (.ok result) := by
  rcases ends.bind with ⟨_, impossible, -⟩ | goes_on
  · cases impossible
  · exact goes_on

/-- A dialogue whose value is not asked for has ended by itself. -/
theorem of_bind_done {dialogue : Dialogue I ε α} {value : β} {outcome : Except ε β}
    (ends : (dialogue >>= fun _ => .done value).Ends exchanges outcome) :
    ∃ ending, dialogue.Ends exchanges ending := by
  rcases ends.bind with ⟨error, -, failed⟩ | ⟨first, _, ending, rfl, ended, rfl, -⟩
  · exact ⟨.error error, failed⟩
  · rw [List.append_nil]
    exact ⟨.ok ending, ended⟩

/-- An attempt never fails, and its value is the outcome of what was attempted. -/
theorem attempt {dialogue : Dialogue I ε α} {outcome : Except ε' (Except ε α)}
    (ends : (dialogue.attempt : Dialogue I ε' (Except ε α)).Ends exchanges outcome) :
    ∃ attempted, outcome = .ok attempted ∧ dialogue.Ends exchanges attempted := by
  induction dialogue generalizing exchanges with
  | done value => exact ⟨.ok value, ends.2, ends.1, rfl⟩
  | fail error => exact ⟨.error error, ends.2, ends.1, rfl⟩
  | ask request follow ih =>
      obtain ⟨reply, rest, rfl, follows⟩ := ends
      obtain ⟨attempted, same, ended⟩ := ih reply follows
      exact ⟨attempted, same, reply, rest, rfl, ended⟩

/-- A dialogue over the first of two interfaces has exchanges over that one only. -/
theorem inl {dialogue : Dialogue I ε α} {exchanges : List (Exchange (I.sum J))}
    {outcome : Except ε α} (ends : (dialogue.inl : Dialogue (I.sum J) ε α).Ends exchanges outcome) :
    ∃ own : List (Exchange I), exchanges = own.map Exchange.inl ∧ dialogue.Ends own outcome := by
  induction dialogue generalizing exchanges with
  | done value => exact ⟨[], ends.1, rfl, ends.2⟩
  | fail error => exact ⟨[], ends.1, rfl, ends.2⟩
  | ask request follow ih =>
      obtain ⟨reply, rest, rfl, follows⟩ := ends
      obtain ⟨own, rfl, ended⟩ := ih reply follows
      exact ⟨⟨request, reply⟩ :: own, rfl, reply, own, rfl, ended⟩

/-- A dialogue over the second of two interfaces has exchanges over that one only. -/
theorem inr {dialogue : Dialogue J ε α} {exchanges : List (Exchange (I.sum J))}
    {outcome : Except ε α} (ends : (dialogue.inr : Dialogue (I.sum J) ε α).Ends exchanges outcome) :
    ∃ own : List (Exchange J), exchanges = own.map Exchange.inr ∧ dialogue.Ends own outcome := by
  induction dialogue generalizing exchanges with
  | done value => exact ⟨[], ends.1, rfl, ends.2⟩
  | fail error => exact ⟨[], ends.1, rfl, ends.2⟩
  | ask request follow ih =>
      obtain ⟨reply, rest, rfl, follows⟩ := ends
      obtain ⟨own, rfl, ended⟩ := ih reply follows
      exact ⟨⟨request, reply⟩ :: own, rfl, reply, own, rfl, ended⟩

end Ends

/-- A dialogue of one question ends with what it makes of the answer. -/
theorem ends_ask_ofExcept_iff {request : I.Request} {made : I.Answer request → Except ε α}
    {exchanges : List (Exchange I)} {outcome : Except ε α} :
    (Dialogue.ask request fun reply => .ofExcept (made reply)).Ends exchanges outcome ↔
      ∃ reply, exchanges = [⟨request, reply⟩] ∧ outcome = made reply := by
  constructor
  · rintro ⟨reply, _, rfl, ends⟩
    obtain ⟨rfl, same⟩ := ends.ofExcept
    exact ⟨reply, rfl, same⟩
  · rintro ⟨reply, rfl, rfl⟩
    exact ⟨reply, [], rfl, .of_ofExcept _⟩

namespace Asks

variable {allowed : I.Request → Prop}

/-- What a dialogue asks at all is all that it has asked when it ends. -/
theorem of_ends {dialogue : Dialogue I ε α} {exchanges : List (Exchange I)} {outcome : Except ε α}
    (asks : dialogue.Asks allowed) (ends : dialogue.Ends exchanges outcome) :
    ∀ exchange ∈ exchanges, allowed exchange.request := by
  induction dialogue generalizing exchanges with
  | done value => rw [ends.1]; exact nofun
  | fail error => rw [ends.1]; exact nofun
  | ask request follow ih =>
      obtain ⟨reply, rest, rfl, follows⟩ := ends
      exact List.forall_mem_cons.mpr ⟨asks.1, ih reply (asks.2 reply) follows⟩

/-- A dialogue that asks questions of a kind asks such of any wider kind. -/
theorem mono {wider : I.Request → Prop} {dialogue : Dialogue I ε α} (asks : dialogue.Asks allowed)
    (weaker : ∀ request, allowed request → wider request) : dialogue.Asks wider := by
  induction dialogue with
  | done value => trivial
  | fail error => trivial
  | ask request follow ih => exact ⟨weaker request asks.1, fun reply => ih reply (asks.2 reply)⟩

/-- An outcome asks nothing. -/
theorem ofExcept (outcome : Except ε α) : (Dialogue.ofExcept outcome : Dialogue I ε α).Asks allowed := by
  cases outcome with
  | ok value => trivial
  | error error => trivial

/-- A dialogue asks what its first part asks and what follows asks. -/
theorem bind {dialogue : Dialogue I ε α} {next : α → Dialogue I ε β}
    (first : dialogue.Asks allowed) (follows : ∀ value, (next value).Asks allowed) :
    (dialogue >>= next).Asks allowed := by
  induction dialogue with
  | done value => exact follows value
  | fail error => trivial
  | ask request follow ih => exact ⟨first.1, fun reply => ih reply (first.2 reply)⟩

/-- Behind an outcome a dialogue asks what follows a success. -/
theorem ofExcept_bind {outcome : Except ε α} {next : α → Dialogue I ε β}
    (follows : ∀ value, outcome = .ok value → (next value).Asks allowed) :
    (Dialogue.ofExcept outcome >>= next).Asks allowed := by
  cases outcome with
  | ok value => exact follows value rfl
  | error error => trivial

/-- An attempt asks what is attempted. -/
theorem attempt {dialogue : Dialogue I ε α} (asks : dialogue.Asks allowed) :
    (dialogue.attempt : Dialogue I ε' (Except ε α)).Asks allowed := by
  induction dialogue with
  | done value => trivial
  | fail error => trivial
  | ask request follow ih => exact ⟨asks.1, fun reply => ih reply (asks.2 reply)⟩

/-- A change of failures asks nothing. -/
theorem mapError {dialogue : Dialogue I ε α} {change : ε → ε'} (asks : dialogue.Asks allowed) :
    (dialogue.mapError change).Asks allowed := by
  induction dialogue with
  | done value => trivial
  | fail error => trivial
  | ask request follow ih => exact ⟨asks.1, fun reply => ih reply (asks.2 reply)⟩

end Asks

end Dialogue

end AccountRelay
