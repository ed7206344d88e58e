import AccountRelay.Json.Value
import AccountRelay.Proofs.Association
import Mathlib.Data.List.Induction
import Mathlib.Data.List.Nodup

/-! # Members of objects

An object built from members says under a key what the last member of that key says
(`Value.get?_ofMembers_concat`). When no key is repeated, that is every member
(`Value.get?_ofMembers_of_mem`), and under other keys there is nothing
(`Value.get?_ofMembers_of_notMem`).
-/

namespace AccountRelay.Json

open Association (lookup_cons_eq_ite)

/-- A member put in its place is the only one of its key, and the others stay. -/
theorem lookup_insertMember (key : String) (value : Value) (members : List (String × Value))
    (wanted : String) :
    (insertMember key value members).lookup wanted =
      if wanted = key then some value else members.lookup wanted := by
  fun_induction insertMember key value members with
  | case1 => exact lookup_cons_eq_ite key value [] wanted
  | case2 other present rest before => exact lookup_cons_eq_ite key value _ wanted
  | case3 present rest before =>
      rw [lookup_cons_eq_ite, lookup_cons_eq_ite]
      by_cases same : wanted = key
      · rw [if_pos same, if_pos same]
      · rw [if_neg same, if_neg same, if_neg same]
  | case4 other present rest before different ih =>
      rw [lookup_cons_eq_ite, lookup_cons_eq_ite, ih]
      by_cases here : wanted = other
      · have apart : wanted ≠ key := fun same => different (same.symm.trans here)
        rw [if_pos here, if_neg apart, if_pos here]
      · rw [if_neg here, if_neg here]

namespace Value

/-- Among members of one key the last one counts. -/
theorem get?_ofMembers_concat (members : List (String × Value)) (key : String) (value : Value)
    (wanted : String) :
    (ofMembers (members ++ [(key, value)])).get? wanted =
      if wanted = key then some value else (ofMembers members).get? wanted := by
  simp only [ofMembers, get?, List.foldl_append, List.foldl_cons, List.foldl_nil]
  exact lookup_insertMember key value _ wanted

/-- Under a key that no member has there is nothing. -/
theorem get?_ofMembers_of_notMem {members : List (String × Value)} {wanted : String}
    (missing : wanted ∉ members.map (·.1)) : (ofMembers members).get? wanted = none := by
  induction members using List.reverseRecOn with
  | nil => rfl
  | append_singleton members member ih =>
      rw [List.map_append, List.mem_append, not_or, List.map_singleton,
        List.mem_singleton] at missing
      rw [get?_ofMembers_concat, if_neg missing.2]
      exact ih missing.1

/-- When no key is repeated, every member is found under its key. -/
theorem get?_ofMembers_of_mem {members : List (String × Value)} {wanted : String} {value : Value}
    (distinct : (members.map (·.1)).Nodup) (member : (wanted, value) ∈ members) :
    (ofMembers members).get? wanted = some value := by
  -- The last member counts, so members are taken off the end.
  induction members using List.reverseRecOn with
  | nil => exact absurd member List.not_mem_nil
  | append_singleton members last ih =>
      rw [List.map_append, List.map_singleton, ← List.concat_eq_append, List.nodup_concat]
        at distinct
      obtain ⟨fresh, distinct⟩ := distinct
      rw [get?_ofMembers_concat]
      rcases List.mem_append.mp member with earlier | here
      · have apart : wanted ≠ last.1 := by
          rintro rfl
          exact fresh (List.mem_map_of_mem (f := (·.1)) earlier)
        rw [if_neg apart]
        exact ih distinct earlier
      · cases List.mem_singleton.mp here
        exact if_pos rfl

end Value

end AccountRelay.Json
