import AccountRelay.Json.Fields
import Mathlib.Data.List.Forall2

/-! # Records, however they are written

The members of an object can be put in another order and among members under other keys, and the fields
of a record can be listed in an array (`Rewritten`). Either way a record gives the same for each of its
fields, up to what stands in an array for a field that is absent (`Rewritten.exists_fields?`). When a
value under one key is changed, the other fields stay as they are (`exists_fields?_of_changed`).
-/

namespace AccountRelay.Json

/-- The members of an object. -/
abbrev Members := List (List Piece × Node)

/-- A field of a record: its key, and what stands for it in an array when it is absent though a field
behind it is not. -/
structure Field where
  key : String
  substitute : Option Node

/-- The nodes under a key. -/
def underKey (members : Members) (key : String) : List Node :=
  (members.filter fun member => Piece.text? member.1 = some key).map (·.2)

/-- Whether items are the fields of a record one after another. A substitute stands for an absent field,
and absent fields at the end are left out. -/
inductive Lists (members : Members) : List Field → List Node → Prop
  | given {field : Field} {fields : List Field} {node : Node} {items : List Node}
      (present : underKey members field.key = [node]) (others : Lists members fields items) :
    Lists members (field :: fields) (node :: items)
  | substituted {field : Field} {fields : List Field} {node : Node} {items : List Node}
      (absent : underKey members field.key = []) (stands : field.substitute = some node)
      (others : Lists members fields items) : Lists members (field :: fields) (node :: items)
  | omitted {fields : List Field} (absent : ∀ field ∈ fields, underKey members field.key = []) :
    Lists members fields []

/-- Whether a node holds the same record as an object: with its members in any order and with any
members under keys that the record does not know, or as an array. -/
inductive Rewritten (fields : List Field) : Node → Node → Prop
  | object {members added arranged : Members}
      (foreign : ∀ member ∈ added, ∃ key, Piece.text? member.1 = some key ∧
        key ∉ fields.map Field.key)
      (arranges : arranged.Perm (members ++ added)) :
    Rewritten fields (.object members) (.object arranged)
  | array {members : Members} {items : List Node} (lists : Lists members fields items) :
    Rewritten fields (.object members) (.array items)

/-- Whether a member is another one, with a value that may be changed under one key. -/
inductive ChangedUnder (key : String) (change : Node → Node → Prop) :
    List Piece × Node → List Piece × Node → Prop
  | same (member : List Piece × Node) : ChangedUnder key change member member
  | changed {pieces : List Piece} {node other : Node} (keyed : Piece.text? pieces = some key)
      (changes : change node other) : ChangedUnder key change (pieces, node) (pieces, other)

/-- Whether what two nodes give for each field of a record is related. -/
inductive EachField (relates : Field → Option Node → Option Node → Prop) :
    List Field → List (Option Node) → List (Option Node) → Prop
  | nil : EachField relates [] [] []
  | cons {field : Field} {fields : List Field} {found other : Option Node}
      {founds others : List (Option Node)} (here : relates field found other)
      (behind : EachField relates fields founds others) :
    EachField relates (field :: fields) (found :: founds) (other :: others)

/-- Whether a field gives the same, or its substitute in place of nothing. -/
def Field.Substitutes (field : Field) (found other : Option Node) : Prop :=
  other = found ∨ found = none ∧ other = field.substitute

/-- Whether a field gives the same, or a changed node under one key. -/
def Field.Changes (key : String) (change : Node → Node → Prop) (field : Field)
    (found other : Option Node) : Prop :=
  other = found ∨ field.key = key ∧
    ∃ node changed, found = some node ∧ other = some changed ∧ change node changed

/-! ## Fields of objects -/

variable {members : Members} {fields : List Field} {keys : List String}
  {keyed : List (String × Node)} {founds : List (Option Node)}

/-- Items are all read when each is, one result for each. -/
theorem mapM_eq_some_iff_forall₂ {α β : Type} {read : α → Option β} {items : List α}
    {results : List β} :
    items.mapM read = some results ↔ List.Forall₂ (fun item result => read item = some result)
      items results := by
  induction items generalizing results with
  | nil =>
      rw [List.mapM_nil, List.forall₂_nil_left_iff, Option.pure_def, Option.some_inj, eq_comm]
  | cons item items ih =>
      simp only [List.mapM_cons, Option.bind_eq_bind, Option.bind_eq_some_iff, Option.pure_def,
        Option.some_inj, List.forall₂_cons_left_iff, ih]
      constructor
      · rintro ⟨result, here, others, behind, rfl⟩
        exact ⟨result, others, here, behind, rfl⟩
      · rintro ⟨result, others, here, behind, rfl⟩
        exact ⟨result, here, others, behind, rfl⟩

/-- A key gives one node when that is all there is under it, and none when there is nothing. -/
theorem only?_eq_some_iff {key : String} {found : Option Node} :
    Node.only? keyed key = some found ↔ (keyed.filter (·.1 = key)).map (·.2) = found.toList := by
  unfold Node.only?
  split
  · rename_i none_there
    rw [none_there]
    cases found <;> simp
  · rename_i own node one_there
    rw [one_there]
    cases found <;> simp
  · rename_i not_none not_one
    refine ⟨nofun, ?_⟩
    intro few
    cases found with
    | none => exact absurd (List.map_eq_nil_iff.mp few) not_none
    | some node =>
        obtain ⟨⟨own, other⟩, one, -⟩ := List.map_eq_singleton_iff.mp few
        exact absurd one (not_one own other)

/-- Members have keys when the pieces of each key make a text. -/
theorem exists_keyed?_iff :
    (∃ keyed, Node.keyed? members = some keyed) ↔
      ∀ member ∈ members, ∃ key, Piece.text? member.1 = some key := by
  induction members with
  | nil => exact ⟨fun _ => List.forall_mem_nil _, fun _ => ⟨[], rfl⟩⟩
  | cons member members ih =>
      rw [List.forall_mem_cons, ← ih]
      simp only [Node.keyed?, List.mapM_cons, Option.bind_eq_bind, Option.bind_eq_some_iff,
        Option.map_eq_some_iff, Option.pure_def, Option.some_inj]
      constructor
      · rintro ⟨_, _, ⟨key, named, rfl⟩, others, behind, rfl⟩
        exact ⟨⟨key, named⟩, others, behind⟩
      · rintro ⟨⟨key, named⟩, others, behind⟩
        exact ⟨_, _, ⟨key, named, rfl⟩, others, behind, rfl⟩

/-- Under a key the members that were given their keys have the nodes that the members have. -/
theorem filter_of_keyed? (reads : Node.keyed? members = some keyed) (key : String) :
    (keyed.filter (·.1 = key)).map (·.2) = underKey members key := by
  have each := mapM_eq_some_iff_forall₂.mp reads
  unfold underKey
  induction each with
  | nil => rfl
  | @cons member own members keyed here _ ih =>
      obtain ⟨key', named, rfl⟩ := Option.map_eq_some_iff.mp here
      have others := ih (mapM_eq_some_iff_forall₂.mpr ‹_›)
      by_cases same : key' = key
      · simpa [List.filter_cons, same, named] using others
      · simpa [List.filter_cons, same, named] using others

/-- An object gives something for each field when its keys are texts and none of the fields is there
twice. -/
theorem fields?_object_eq_some_iff :
    (Node.object members).fields? keys = some founds ↔
      (∀ member ∈ members, ∃ key, Piece.text? member.1 = some key) ∧
      List.Forall₂ (fun key found => underKey members key = found.toList) keys founds := by
  have same {keyed : List (String × Node)} (reads : Node.keyed? members = some keyed) :
      keys.mapM (Node.only? keyed) = some founds ↔
        List.Forall₂ (fun key found => underKey members key = found.toList) keys founds := by
    simp only [mapM_eq_some_iff_forall₂, only?_eq_some_iff, filter_of_keyed? reads]
  rw [Node.fields?, ← exists_keyed?_iff]
  simp only [Option.bind_eq_bind, Option.bind_eq_some_iff]
  constructor
  · rintro ⟨keyed, reads, found⟩
    exact ⟨⟨keyed, reads⟩, (same reads).mp found⟩
  · rintro ⟨⟨keyed, reads⟩, found⟩
    exact ⟨keyed, reads, (same reads).mpr found⟩

/-! ## Records written anew -/

/-- What is related for each field is related for the first and for the others. -/
theorem EachField.of_cons {relates : Field → Option Node → Option Node → Prop} {field : Field}
    {others : List (Option Node)} (each : EachField relates (field :: fields) founds others) :
    ∃ found behind other rest, founds = found :: behind ∧ others = other :: rest ∧
      relates field found other ∧ EachField relates fields behind rest := by
  cases each with
  | cons here behind => exact ⟨_, _, _, _, rfl, rfl, here, behind⟩

/-- Without fields there is nothing to relate. -/
theorem EachField.of_nil {relates : Field → Option Node → Option Node → Prop}
    {others : List (Option Node)} (each : EachField relates [] founds others) :
    founds = [] ∧ others = [] := by
  cases each
  exact ⟨rfl, rfl⟩

/-- What is related to itself for each field is related for all. -/
theorem EachField.of_forall₂ {relates : Field → Option Node → Option Node → Prop}
    {found : Field → Option Node → Prop} (each : List.Forall₂ found fields founds)
    (here : ∀ field node, found field node → relates field node node) :
    EachField relates fields founds founds := by
  induction each with
  | nil => exact .nil
  | cons own _ ih => exact .cons (here _ _ own) ih

/-- For each field there is another node, if there is for any. -/
theorem exists_eachField {relates : Field → Option Node → Option Node → Prop}
    {reads gives : Field → Option Node → Prop} (each : List.Forall₂ reads fields founds)
    (here : ∀ field found, reads field found →
      ∃ other, gives field other ∧ relates field found other) :
    ∃ others, List.Forall₂ gives fields others ∧ EachField relates fields founds others := by
  induction each with
  | nil => exact ⟨[], .nil, .nil⟩
  | cons own _ ih =>
      obtain ⟨other, given, related⟩ := here _ _ own
      obtain ⟨others, all_given, all_related⟩ := ih
      exact ⟨other :: others, .cons given all_given, .cons related all_related⟩

/-- Of at most one item there is one order. -/
theorem eq_toList_of_perm {α : Type} {items : List α} {found : Option α}
    (same : items.Perm found.toList) : items = found.toList := by
  cases found with
  | none => exact same.eq_nil
  | some item => exact List.perm_singleton.mp same

/-- Order does not matter among the members of an object, nor do members under other keys. -/
theorem underKey_of_perm {added arranged : Members} {key : String} {found : Option Node}
    (foreign : underKey added key = []) (arranges : arranged.Perm (members ++ added))
    (own : underKey members key = found.toList) : underKey arranged key = found.toList := by
  have nodes : (underKey arranged key).Perm (underKey (members ++ added) key) :=
    (arranges.filter _).map _
  have split : underKey (members ++ added) key = underKey members key ++ underKey added key := by
    rw [underKey, List.filter_append, List.map_append]
    rfl
  rw [split, foreign, List.append_nil, own] at nodes
  exact eq_toList_of_perm nodes

/-- Members under other keys have nothing under this one. -/
theorem underKey_eq_nil {added : Members} {key : String}
    (foreign : ∀ member ∈ added, ∃ own, Piece.text? member.1 = some own ∧ own ≠ key) :
    underKey added key = [] := by
  rw [underKey, List.map_eq_nil_iff, List.filter_eq_nil_iff]
  intro member among
  obtain ⟨own, named, other⟩ := foreign member among
  simp [named, other]

/-- An array has no more items than there are fields. -/
theorem Lists.length_le {items : List Node} (lists : Lists members fields items) :
    items.length ≤ fields.length := by
  induction lists with
  | given _ _ ih => exact Nat.succ_le_succ ih
  | substituted _ _ _ ih => exact Nat.succ_le_succ ih
  | omitted => exact Nat.zero_le _

/-- Listed fields give what they gave, or a substitute. -/
theorem Lists.eachField {items : List Node} (lists : Lists members fields items)
    (each : List.Forall₂ (fun field found => underKey members field.key = found.toList) fields
      founds) :
    EachField Field.Substitutes fields founds
      (items.map some ++ List.replicate (fields.length - items.length) none) := by
  induction lists generalizing founds with
  | given present _ ih =>
      obtain ⟨found, founds, own, behind, rfl⟩ := List.forall₂_cons_left_iff.mp each
      rw [present] at own
      simp only [List.map_cons, List.length_cons, Nat.add_sub_add_right, List.cons_append]
      refine .cons (.inl ?_) (ih behind)
      cases found with
      | none => cases own
      | some node => rw [(List.cons.inj own).1]
  | substituted absent stands _ ih =>
      obtain ⟨found, founds, own, behind, rfl⟩ := List.forall₂_cons_left_iff.mp each
      rw [absent] at own
      simp only [List.map_cons, List.length_cons, Nat.add_sub_add_right, List.cons_append]
      refine .cons (.inr ⟨?_, stands.symm⟩) (ih behind)
      cases found with
      | none => rfl
      | some node => cases own
  | omitted absent =>
      simp only [List.map_nil, List.nil_append, List.length_nil, Nat.sub_zero]
      induction each with
      | nil => exact .nil
      | @cons field found fields founds own _ ih =>
          obtain ⟨here, behind⟩ := List.forall_mem_cons.mp absent
          rw [here] at own
          refine .cons (.inl ?_) (ih behind)
          cases found with
          | none => rfl
          | some node => cases own

/-- A record that is written anew gives the same for its fields, up to substitutes. -/
theorem Rewritten.exists_fields? {node other : Node} (rewritten : Rewritten fields node other)
    (reads : node.fields? (fields.map Field.key) = some founds) :
    ∃ others, other.fields? (fields.map Field.key) = some others ∧
      EachField Field.Substitutes fields founds others := by
  cases rewritten with
  | @object members added arranged foreign arranges =>
      obtain ⟨texts, each⟩ := fields?_object_eq_some_iff.mp reads
      rw [List.forall₂_map_left_iff] at each
      refine ⟨founds, fields?_object_eq_some_iff.mpr ⟨?_, ?_⟩, .of_forall₂ each fun _ _ _ => .inl rfl⟩
      · intro member among
        rcases List.mem_append.mp (arranges.mem_iff.mp among) with own | added
        · exact texts member own
        · obtain ⟨key, named, -⟩ := foreign member added
          exact ⟨key, named⟩
      · have unknown : ∀ field ∈ fields, underKey added field.key = [] := by
          intro field known
          apply underKey_eq_nil
          intro member among
          obtain ⟨key, named, other⟩ := foreign member among
          refine ⟨key, named, ?_⟩
          rintro rfl
          exact other (List.mem_map_of_mem known)
        rw [List.forall₂_map_left_iff]
        exact ((List.forall₂_and_left _ _).mpr ⟨unknown, each⟩).imp fun field found ⟨absent, own⟩ =>
          underKey_of_perm absent arranges own
  | array lists =>
      obtain ⟨-, each⟩ := fields?_object_eq_some_iff.mp reads
      rw [List.forall₂_map_left_iff] at each
      refine ⟨_, ?_, lists.eachField each⟩
      rw [Node.fields?, List.length_map, if_neg (Nat.not_lt.mpr lists.length_le)]

/-! ## Values changed -/

variable {key : String} {change : Node → Node → Prop} {changed : Members}

/-- A change under a key changes no key. -/
theorem ChangedUnder.fst_eq {member other : List Piece × Node}
    (alike : ChangedUnder key change member other) : other.1 = member.1 := by
  cases alike with
  | same => rfl
  | changed => rfl

/-- Changes under a key leave all keys in place. -/
theorem keys_eq_of_changed (each : List.Forall₂ (ChangedUnder key change) members changed) :
    changed.map (·.1) = members.map (·.1) := by
  induction each with
  | nil => rfl
  | cons alike _ ih => rw [List.map_cons, List.map_cons, alike.fst_eq, ih]

/-- Under every key there are as many nodes as before, and they differ under one key only. -/
theorem forall₂_underKey (each : List.Forall₂ (ChangedUnder key change) members changed) (own : String) :
    List.Forall₂ (fun node other => other = node ∨ own = key ∧ change node other)
      (underKey members own) (underKey changed own) := by
  induction each with
  | nil => exact .nil
  | @cons member other members changed alike _ ih =>
      unfold underKey at ih ⊢
      rw [List.filter_cons, List.filter_cons, alike.fst_eq]
      split
      · rename_i named
        refine .cons ?_ ih
        cases alike with
        | same => exact .inl rfl
        | changed keyed changes =>
            refine .inr ⟨?_, changes⟩
            rw [keyed] at named
            exact (Option.some.inj (of_decide_eq_true named)).symm
      · exact ih

/-- A record with a value changed under one key gives the same for its other fields. -/
theorem exists_fields?_of_changed (fields : List Field)
    (each : List.Forall₂ (ChangedUnder key change) members changed)
    (reads : (Node.object members).fields? (fields.map Field.key) = some founds) :
    ∃ others, (Node.object changed).fields? (fields.map Field.key) = some others ∧
      EachField (Field.Changes key change) fields founds others := by
  obtain ⟨texts, found⟩ := fields?_object_eq_some_iff.mp reads
  rw [List.forall₂_map_left_iff] at found
  have here (field : Field) (found : Option Node) (own : underKey members field.key = found.toList) :
      ∃ other, underKey changed field.key = other.toList ∧ field.Changes key change found other := by
    have alike := forall₂_underKey each field.key
    rw [own] at alike
    cases found with
    | none => exact ⟨none, List.forall₂_nil_left_iff.mp alike, .inl rfl⟩
    | some node =>
        obtain ⟨other, rest, differs, behind, same⟩ := List.forall₂_cons_left_iff.mp alike
        rw [List.forall₂_nil_left_iff.mp behind] at same
        refine ⟨some other, same, ?_⟩
        rcases differs with rfl | ⟨named, changes⟩
        · exact .inl rfl
        · exact .inr ⟨named, node, other, rfl, rfl, changes⟩
  obtain ⟨others, given, related⟩ := exists_eachField found here
  refine ⟨others, fields?_object_eq_some_iff.mpr ⟨?_, ?_⟩, related⟩
  · intro other among
    have kept : other.1 ∈ changed.map (·.1) := List.mem_map_of_mem among
    rw [keys_eq_of_changed each] at kept
    obtain ⟨member, own, same⟩ := List.mem_map.mp kept
    exact same ▸ texts member own
  · rwa [List.forall₂_map_left_iff]

end AccountRelay.Json
