import AccountRelay.Proofs.Dialogue.Histories

/-! # Dialogues that a world takes for the same

States of a world can be the same to a dialogue although they differ, say in a log that nobody reads. Two
dialogues are alike in a world when they end in the same way from states that are the same, and leave
states that are the same (`Dialogue.Alike`). A dialogue is like itself in a world that answers questions
so (`Likeness.alike`), and stays alike when its questions are answered by dialogues that are alike
(`Likeness.alike_interpret`).
-/

namespace AccountRelay

variable {I J : Interface} {ε α β σ : Type}

/-- States that are the same to a world are answered in the same way, and stay the same. -/
structure Likeness (answer : (request : I.Request) → σ → I.Answer request × σ)
    (same : σ → σ → Prop) : Prop where
  symm : ∀ {one other}, same one other → same other one
  trans : ∀ {one other third}, same one other → same other third → same one third
  answers : ∀ request {one other}, same one other →
    (answer request one).1 = (answer request other).1 ∧
      same (answer request one).2 (answer request other).2

/-- Two dialogues that end in the same way in states that are the same, and leave such states. -/
def Dialogue.Alike (answer : (request : I.Request) → σ → I.Answer request × σ) (same : σ → σ → Prop)
    (one other : Dialogue I ε α) : Prop :=
  ∀ first second, same first second →
    (one.run answer first).1 = (other.run answer second).1 ∧
      same (one.run answer first).2 (other.run answer second).2

open Dialogue (Alike)

variable {answer : (request : I.Request) → σ → I.Answer request × σ} {same : σ → σ → Prop}

/-- Dialogues that are alike, with alike ones behind, are alike. -/
theorem Dialogue.Alike.bind {one other : Dialogue I ε α} {next next' : α → Dialogue I ε β}
    (alike : Alike answer same one other) (follow : ∀ value, Alike answer same (next value) (next' value)) :
    Alike answer same (one >>= next) (other >>= next') := by
  intro first second begins
  have ended := alike first second begins
  rw [run_bind, run_bind]
  generalize one.run answer first = left at ended ⊢
  generalize other.run answer second = right at ended ⊢
  obtain ⟨outcome, after⟩ := left
  obtain ⟨_, after'⟩ := right
  obtain ⟨rfl, leaves⟩ := ended
  cases outcome with
  | ok value => exact follow value after after' leaves
  | error error => exact ⟨rfl, leaves⟩

namespace Likeness

variable (likeness : Likeness answer same)

include likeness

/-- Likeness goes both ways. -/
theorem alike_symm {one other : Dialogue I ε α} (alike : Alike answer same one other) :
    Alike answer same other one := by
  intro first second begins
  obtain ⟨outcome, leaves⟩ := alike second first (likeness.symm begins)
  exact ⟨outcome.symm, likeness.symm leaves⟩

/-- Likeness goes from one dialogue over a second to a third. -/
theorem alike_trans {one other third : Dialogue I ε α} (alike : Alike answer same one other)
    (follows : Alike answer same other third) : Alike answer same one third := by
  intro first second begins
  obtain ⟨outcome, leaves⟩ := alike first second begins
  obtain ⟨outcome', leaves'⟩ := follows second second (likeness.trans (likeness.symm begins) begins)
  exact ⟨outcome.trans outcome', likeness.trans leaves leaves'⟩

/-- A dialogue is like itself where the answers keep likeness. -/
theorem alike (dialogue : Dialogue I ε α) : Alike answer same dialogue dialogue := by
  induction dialogue with
  | done value => exact fun _ _ begins => ⟨rfl, begins⟩
  | fail error => exact fun _ _ begins => ⟨rfl, begins⟩
  | ask request follow ih =>
      intro first second begins
      obtain ⟨reply, leaves⟩ := likeness.answers request begins
      simp only [Dialogue.run]
      rw [reply]
      exact ih _ _ _ leaves

end Likeness

/-- Questions served alike are served alike throughout a dialogue. -/
theorem Dialogue.Alike.interpret {serve serve' : (request : J.Request) → Dialogue I ε (J.Answer request)}
    (alike : ∀ request, Alike answer same (serve request) (serve' request)) (dialogue : Dialogue J ε α) :
    Alike answer same (dialogue.interpret serve) (dialogue.interpret serve') := by
  induction dialogue with
  | done value => exact fun _ _ begins => ⟨rfl, begins⟩
  | fail error => exact fun _ _ begins => ⟨rfl, begins⟩
  | ask request follow ih => exact (alike request).bind ih

end AccountRelay
