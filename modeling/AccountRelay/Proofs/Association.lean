import Mathlib.Data.List.Basic

/-! # Values by key

The entries of a directory, the contents of files, the mutexes of senders and the members of an object
are lists of pairs in which a value is looked up by its key. What is found when a pair is put in front
(`lookup_cons_eq_ite`) or behind (`lookup_concat`), and when the pairs of a key are taken out
(`lookup_filter_ne`), is the same for all of them.
-/

namespace AccountRelay.Association

variable {κ ν : Type} [BEq κ] [LawfulBEq κ] [DecidableEq κ]

/-- A pair put in front is the one that is found under its key. -/
theorem lookup_cons_eq_ite (key : κ) (value : ν) (entries : List (κ × ν)) (wanted : κ) :
    ((key, value) :: entries).lookup wanted =
      if wanted = key then some value else entries.lookup wanted := by
  by_cases same : wanted = key
  · rw [if_pos same, same, List.lookup_cons_self]
  · rw [if_neg same, List.lookup_cons, beq_eq_false_iff_ne.mpr same]

/-- A pair put behind the others is found under its key if there was none of that key. -/
theorem lookup_concat {entries : List (κ × ν)} {key : κ} (absent : entries.lookup key = none)
    (value : ν) (wanted : κ) :
    (entries ++ [(key, value)]).lookup wanted =
      if wanted = key then some value else entries.lookup wanted := by
  rw [List.lookup_append, lookup_cons_eq_ite, List.lookup_nil]
  by_cases same : wanted = key
  · rw [if_pos same, if_pos same, same, absent, Option.none_or]
  · rw [if_neg same, if_neg same, Option.or_none]

/-- When the pairs of a key are taken out, nothing is found under that key, and under the others what
was there. -/
theorem lookup_filter_ne (entries : List (κ × ν)) (gone wanted : κ) :
    (entries.filter (·.1 ≠ gone)).lookup wanted =
      if wanted = gone then none else entries.lookup wanted := by
  induction entries with
  | nil => simp
  | cons entry rest ih =>
      obtain ⟨key, value⟩ := entry
      rw [lookup_cons_eq_ite]
      by_cases removed : key = gone
      · subst removed
        rw [List.filter_cons_of_neg (by simp), ih]
        by_cases own : wanted = key
        · rw [if_pos own, if_pos own]
        · rw [if_neg own, if_neg own, if_neg own]
      · rw [List.filter_cons_of_pos (by simp [removed]), lookup_cons_eq_ite, ih]
        by_cases own : wanted = key
        · rw [if_pos own, if_pos own, own, if_neg removed]
        · rw [if_neg own, if_neg own]

end AccountRelay.Association
