import AccountRelay.Proofs.Json.Members
import Mathlib.Data.String.Basic

/-! # Parts of objects

The members of an object built from members are in the ascending order of their keys
(`isSorted_placed`). So leaving out keys before an object is built is the same as leaving them out
afterwards (`Value.restrict_ofMembers`).
-/

namespace AccountRelay.Json

/-- Whether members are in the ascending order of their keys, with one member a key. -/
def IsSorted (members : List (String × Value)) : Prop :=
  members.Pairwise fun one other => one.1 < other.1

variable {key : String} {value : Value} {members : List (String × Value)}

/-- A member found after an insertion is the inserted one or was there before. -/
theorem mem_insertMember {member : String × Value} (present : member ∈ insertMember key value members) :
    member = (key, value) ∨ member ∈ members := by
  fun_induction insertMember key value members with
  | case1 => exact .inl (List.mem_singleton.mp present)
  | case2 => exact List.mem_cons.mp present
  | case3 =>
      rcases List.mem_cons.mp present with same | later
      · exact .inl same
      · exact .inr (List.mem_cons_of_mem _ later)
  | case4 other own rest before different ih =>
      rcases List.mem_cons.mp present with same | later
      · exact .inr (List.mem_cons.mpr (.inl same))
      · exact (ih later).imp_right (List.mem_cons_of_mem _)

/-- An insertion keeps the members in the order of their keys. -/
theorem IsSorted.insertMember (sorted : IsSorted members) : IsSorted (insertMember key value members) := by
  unfold IsSorted at sorted ⊢
  fun_induction Json.insertMember key value members with
  | case1 => exact List.pairwise_singleton _ _
  | case2 other own rest before =>
      refine List.pairwise_cons.mpr ⟨?_, sorted⟩
      intro member present
      rcases List.mem_cons.mp present with rfl | later
      · exact before
      · exact lt_trans before ((List.pairwise_cons.mp sorted).1 member later)
  | case3 own rest before =>
      exact List.pairwise_cons.mpr (List.pairwise_cons.mp sorted)
  | case4 other own rest before different ih =>
      obtain ⟨first, sorted⟩ := List.pairwise_cons.mp sorted
      refine List.pairwise_cons.mpr ⟨?_, ih sorted⟩
      intro member present
      rcases mem_insertMember present with rfl | later
      · exact lt_of_le_of_ne (not_lt.mp before) (Ne.symm different)
      · exact first member later

/-- A member whose key comes before all others is put in front of them. -/
theorem insertMember_of_forall_lt (first : ∀ member ∈ members, key < member.1) :
    insertMember key value members = (key, value) :: members := by
  cases members with
  | nil => rfl
  | cons member rest => exact if_pos (first member List.mem_cons_self)

/-- Leaving out keys and putting a member in its place can change places. -/
theorem filter_insertMember (kept : String → Bool) (sorted : IsSorted members) :
    (insertMember key value members).filter (fun member => kept member.1) =
      if kept key then insertMember key value (members.filter fun member => kept member.1)
      else members.filter fun member => kept member.1 := by
  unfold IsSorted at sorted
  fun_induction insertMember key value members with
  | case1 =>
      cases keeps : kept key with
      | true => simp [keeps, insertMember]
      | false => simp [keeps]
  | case2 other own rest before =>
      cases keeps : kept key with
      | true =>
          -- The member that stood behind the new one may be left out, and then a later one does.
          have first : ∀ member ∈ ((other, own) :: rest).filter (fun member => kept member.1),
              key < member.1 := by
            intro member present
            rcases List.mem_cons.mp (List.mem_filter.mp present).1 with rfl | later
            · exact before
            · exact lt_trans before ((List.pairwise_cons.mp sorted).1 member later)
          rw [if_pos rfl, insertMember_of_forall_lt first]
          exact List.filter_cons_of_pos keeps
      | false => exact List.filter_cons_of_neg (by simp [keeps])
  | case3 own rest before =>
      cases keeps : kept key with
      | true => simp only [List.filter_cons, keeps, ↓reduceIte, insertMember, before]
      | false => simp only [List.filter_cons, keeps, Bool.false_eq_true, ↓reduceIte]
  | case4 other own rest before different ih =>
      have rest_placed := ih (List.pairwise_cons.mp sorted).2
      cases keeps : kept other with
      | true =>
          simp only [List.filter_cons, keeps, ↓reduceIte, rest_placed]
          cases kept key with
          | true => simp only [↓reduceIte, insertMember, before, different]
          | false => simp only [Bool.false_eq_true, ↓reduceIte]
      | false =>
          simp only [List.filter_cons, keeps, Bool.false_eq_true, ↓reduceIte]
          exact rest_placed

/-- The members that an object built from members has. -/
def placed (members : List (String × Value)) : List (String × Value) :=
  members.foldl (fun sorted (key, value) => insertMember key value sorted) []

/-- The last of the given members is the last to be inserted. -/
theorem placed_concat (members : List (String × Value)) (member : String × Value) :
    placed (members ++ [member]) = insertMember member.1 member.2 (placed members) :=
  List.foldl_append

/-- Members are placed in the order of their keys. -/
theorem isSorted_placed (members : List (String × Value)) : IsSorted (placed members) := by
  induction members using List.reverseRecOn with
  | nil => exact List.Pairwise.nil
  | append_singleton members member ih =>
      rw [placed_concat]
      exact ih.insertMember

/-- Members can be left out before they are placed or after. -/
theorem filter_placed (kept : String → Bool) (members : List (String × Value)) :
    (placed members).filter (fun member => kept member.1) =
      placed (members.filter fun member => kept member.1) := by
  -- The last member is put in its place last.
  induction members using List.reverseRecOn with
  | nil => rfl
  | append_singleton members member ih =>
      rw [placed_concat, filter_insertMember kept (isSorted_placed members), ih, List.filter_append]
      cases keeps : kept member.1 with
      | true => simp only [List.filter_cons, List.filter_nil, keeps, ↓reduceIte, placed_concat]
      | false =>
          simp only [List.filter_cons, List.filter_nil, keeps, Bool.false_eq_true, ↓reduceIte,
            List.append_nil]

namespace Value

/-- The object with the members of some keys only. -/
def restrict (keys : List String) : Value → Value
  | .object members => .object (members.filter fun member => member.1 ∈ keys)
  | value => value

/-- Keys can be left out before or after an object is built. -/
theorem restrict_ofMembers (keys : List String) (members : List (String × Value)) :
    (ofMembers members).restrict keys = ofMembers (members.filter fun member => member.1 ∈ keys) :=
  congrArg object (filter_placed (fun key => key ∈ keys) members)

/-- To restrict a value twice is to restrict it to the fewer keys. -/
theorem restrict_restrict {fewer more : List String} (among : fewer ⊆ more) (value : Value) :
    (value.restrict more).restrict fewer = value.restrict fewer := by
  cases value with
  | object members =>
      simp only [restrict, List.filter_filter]
      refine congrArg object (List.filter_congr fun member _ => ?_)
      by_cases here : member.1 ∈ fewer
      · simp [here, among here]
      · simp [here]
  | _ => rfl

end Value

end AccountRelay.Json
