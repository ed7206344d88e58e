import AccountRelay.Storage.Path

/-! # Where paths lead

Without links in it a path leads where its segments say (`Path.destination`). A path that ends in a
name (`Path.EndsIn`) leads to that name in a directory, and with another extension to another name in
the same directory (`Path.segments_withExtension`).
-/

namespace AccountRelay

namespace Text

/-- No piece of a text has the separator in it. -/
theorem notMem_of_mem_pieces {separator : Char} {text piece : List Char}
    (member : piece ∈ pieces separator text) : separator ∉ piece := by
  induction text generalizing piece with
  | nil =>
      rw [List.mem_singleton.mp member]
      exact List.not_mem_nil
  | cons c rest ih =>
      unfold pieces at member
      split at member
      · rcases List.mem_cons.mp member with rfl | member
        · exact List.not_mem_nil
        · exact ih member
      · rename_i other
        split at member
        · rename_i first others found
          rw [found] at ih
          rcases List.mem_cons.mp member with rfl | member
          · have first_free := ih List.mem_cons_self
            simp only [List.mem_cons, not_or]
            exact ⟨Ne.symm other, first_free⟩
          · exact ih (List.mem_cons_of_mem _ member)
        · rename_i found
          exact absurd found (pieces_ne_nil separator rest)

/-- A piece in front of a separator is the first piece. -/
theorem pieces_append {separator : Char} {piece : List Char} (free : separator ∉ piece)
    (rest : List Char) :
    pieces separator (piece ++ separator :: rest) = piece :: pieces separator rest := by
  induction piece with
  | nil => simp [pieces]
  | cons c piece ih =>
      simp only [List.mem_cons, not_or] at free
      rw [List.cons_append, pieces, if_neg (Ne.symm free.1), ih free.2]

/-- A text without the separator is one piece. -/
theorem pieces_of_notMem {separator : Char} {piece : List Char} (free : separator ∉ piece) :
    pieces separator piece = [piece] := by
  induction piece with
  | nil => rfl
  | cons c piece ih =>
      simp only [List.mem_cons, not_or] at free
      rw [pieces, if_neg (Ne.symm free.1), ih free.2]

/-- Parts are joined by a separator behind the first. -/
theorem joined_cons (separator : Char) (first : List Char) {rest : List (List Char)}
    (some_rest : rest ≠ []) :
    joined separator (first :: rest) = first ++ separator :: joined separator rest := by
  cases rest with
  | nil => exact absurd rfl some_rest
  | cons second others => rfl

/-- Parts without the separator are the pieces of what they are joined to. -/
theorem pieces_joined {separator : Char} {parts : List (List Char)} (some_part : parts ≠ [])
    (free : ∀ part ∈ parts, separator ∉ part) : pieces separator (joined separator parts) = parts := by
  induction parts with
  | nil => exact absurd rfl some_part
  | cons first others ih =>
      obtain ⟨first_free, others_free⟩ := List.forall_mem_cons.mp free
      cases others with
      | nil => exact pieces_of_notMem first_free
      | cons second others =>
          rw [joined_cons _ _ (by simp), pieces_append first_free, ih (by simp) others_free]

/-- Joined parts are the first ones, each with a separator behind it, and then the last. -/
theorem joined_concat (separator : Char) (front : List (List Char)) (last : List Char) :
    joined separator (front ++ [last]) = front.flatMap (· ++ [separator]) ++ last := by
  induction front with
  | nil => rfl
  | cons first front ih =>
      rw [List.cons_append, joined_cons _ _ (by simp), ih]
      simp

end Text

namespace Path

/-- The way that segments lead, from a way on. -/
def resolve (way : List String) : List String → List String
  | [] => way
  | segment :: rest =>
    if segment = "" ∨ segment = "." then resolve way rest
    else if segment = ".." then resolve way.dropLast rest
    else resolve (way ++ [segment]) rest

/-- Segments lead where the later ones lead from where the first ones do. -/
theorem resolve_append (way first rest : List String) :
    resolve way (first ++ rest) = resolve (resolve way first) rest := by
  induction first generalizing way with
  | nil => rfl
  | cons segment first ih =>
      simp only [List.cons_append, resolve, ih]
      split
      · rfl
      · split
        · rfl
        · rfl

/-- The way that a path leads. -/
def destination (path : String) : List String :=
  resolve [] ((segments path.toList).map String.ofList)

/-- A segment that is the name of something. -/
def IsName (segment : List Char) : Prop :=
  segment ≠ [] ∧ segment ≠ ['.'] ∧ segment ≠ ['.', '.']

/-- A path that ends in a name, behind other segments. -/
structure EndsIn (path : String) (front : List (List Char)) (name : List Char) : Prop where
  segments_eq : segments path.toList = front ++ [name]
  is_name : IsName name

/-- A segment of more than two characters is a name. -/
theorem isName_of_long {segment : List Char} (long : 2 < segment.length) : IsName segment := by
  refine ⟨?_, ?_, ?_⟩
  · rintro rfl
    cases long
  · rintro rfl
    simp at long
  · rintro rfl
    simp at long

/-- What lies above is not as deep. -/
theorem destination_of_dots {path : String} {front : List (List Char)}
    (dots : segments path.toList = front ++ [['.', '.']]) :
    destination path = (resolve [] (front.map String.ofList)).dropLast := by
  rw [destination, dots, List.map_append, resolve_append]
  rfl

/-- The extension of the name at the end of a path. -/
def extension? (path : String) : Option (List Char) :=
  (lastName? path).bind fun (name, _) =>
    if stem name = name then none else some (name.drop ((stem name).length + 1))

/-! ## Names -/

/-- The stem of a name is what is in front of the dot of its extension. -/
theorem stem_append {base extension : List Char} (some_base : base ≠ []) (plain : '.' ∉ extension) :
    stem (base ++ '.' :: extension) = base := by
  have cut : (base ++ '.' :: extension).reverse.dropWhile (· ≠ '.') = '.' :: base.reverse := by
    rw [List.reverse_append, List.reverse_cons, List.append_assoc, List.singleton_append,
      List.dropWhile_append_of_pos]
    · simp
    · intro c member
      have other : c ≠ '.' := fun same => plain (same ▸ List.mem_reverse.mp member)
      simp [other]
  unfold stem
  rw [cut, List.tail_cons, List.reverse_reverse]
  cases base with
  | nil => exact absurd rfl some_base
  | cons c base => rfl

/-- A name is its own stem, or has an extension behind its stem. -/
theorem stem_cases (name : List Char) : stem name = name ∨
    stem name ≠ [] ∧ ∃ extension, '.' ∉ extension ∧ name = stem name ++ '.' :: extension := by
  cases cut : name.reverse.dropWhile (· ≠ '.') with
  | nil => exact .inl (by rw [stem, cut]; rfl)
  | cons dot before =>
      have is_dot : dot = '.' := by
        have head := List.head?_dropWhile_not (fun c : Char => decide (c ≠ '.')) name.reverse
        rw [cut] at head
        simpa using head
      subst is_dot
      cases shape : before.reverse with
      | nil => exact .inl (by rw [stem, cut, List.tail_cons, shape])
      | cons c rest =>
          have stem_eq : stem name = before.reverse := by rw [stem, cut, List.tail_cons, shape]
          have whole := List.takeWhile_append_dropWhile (p := fun c : Char => decide (c ≠ '.'))
            (l := name.reverse)
          refine .inr ⟨by rw [stem_eq, shape]; exact List.cons_ne_nil _ _,
            (name.reverse.takeWhile (· ≠ '.')).reverse, ?_, ?_⟩
          · intro member
            have taken := List.all_eq_true.mp
              (List.all_takeWhile (p := fun c : Char => decide (c ≠ '.')) (l := name.reverse)) '.'
              (List.mem_reverse.mp member)
            simp at taken
          · rw [cut] at whole
            have reversed := congrArg List.reverse whole
            rw [List.reverse_append, List.reverse_cons, List.reverse_reverse] at reversed
            rw [stem_eq, ← List.singleton_append, ← List.append_assoc]
            exact reversed.symm

/-- A name has a stem. -/
theorem stem_ne_nil {name : List Char} (some_name : name ≠ []) : stem name ≠ [] := by
  rcases stem_cases name with own | ⟨some_stem, -⟩
  · rw [own]
    exact some_name
  · exact some_stem

/-! ## Paths that end in a name -/

namespace EndsIn

variable {path : String} {front : List (List Char)} {name : List Char}

/-- The last name of a path that ends in a name is that name. -/
theorem lastName?_eq (ends : EndsIn path front name) :
    lastName? path = some (name, front.reverse) := by
  obtain ⟨some_name, no_dot, no_dots⟩ := ends.is_name
  have speaks : isSilent name = false := by simp [isSilent, some_name, no_dot]
  have spoken_eq : spoken path = name :: front.reverse := by
    rw [spoken, ends.segments_eq, List.reverse_append, List.reverse_singleton,
      List.singleton_append]
    cases front.reverse with
    | nil => rfl
    | cons above others => simp [trimmedReversed, speaks]
  simp [lastName?, spoken_eq, speaks, no_dots]

/-- No segment has a slash in it. -/
theorem free_of_mem (ends : EndsIn path front name) {segment : List Char}
    (member : segment ∈ front ++ [name]) : '/' ∉ segment := by
  rw [← ends.segments_eq] at member
  exact Text.notMem_of_mem_pieces member

/-- A path that ends in a name is its other segments, each with a slash behind it, and then the name.
-/
theorem toList_eq (ends : EndsIn path front name) :
    path.toList = front.flatMap (· ++ ['/']) ++ name := by
  rw [← Text.joined_concat, ← ends.segments_eq]
  exact (Text.joined_pieces '/' path.toList).symm

/-- Another name behind the same segments makes a path of the same segments and the other name. -/
theorem segments_of_toList_eq (ends : EndsIn path front name) {other : String} {last : List Char}
    (free : '/' ∉ last) (text : other.toList = front.flatMap (· ++ ['/']) ++ last) :
    segments other.toList = front ++ [last] := by
  rw [text, ← Text.joined_concat]
  apply Text.pieces_joined (by simp)
  intro segment member
  rcases List.mem_append.mp member with before | own
  · exact ends.free_of_mem (List.mem_append_left _ before)
  · rwa [List.mem_singleton.mp own]

/-- Without its extension a path ends in the stem of its name, behind which the dot stays. -/
theorem segments_withoutExtension (ends : EndsIn path front name) :
    ∃ bare, segments (withoutExtension path).toList = front ++ [bare] ∧
      (bare = name ∧ stem name = name ∨ bare = stem name ++ ['.'] ∧ stem name ≠ []) := by
  have length_eq : path.length = (front.flatMap (· ++ ['/'])).length + name.length := by
    rw [← String.length_toList, ends.toList_eq, List.length_append]
  have cut (count : Nat) (fits : count ≤ name.length) :
      (String.ofList (path.toList.take (path.length - count))).toList =
        front.flatMap (· ++ ['/']) ++ name.take (name.length - count) := by
    rw [String.toList_ofList, ends.toList_eq, length_eq, Nat.add_sub_assoc fits,
      List.take_length_add_append]
  have text : (withoutExtension path).toList = front.flatMap (· ++ ['/']) ++
      name.take (name.length - (name.length - (stem name).length - 1)) := by
    simp only [withoutExtension, ends.lastName?_eq]
    exact cut _ (by omega)
  have free := ends.free_of_mem (List.mem_append_right front (List.mem_singleton_self name))
  rcases stem_cases name with own | ⟨some_stem, extension, -, whole⟩
  · refine ⟨name, ends.segments_of_toList_eq free ?_, .inl ⟨rfl, own⟩⟩
    rw [text, own]
    simp
  · refine ⟨stem name ++ ['.'], ends.segments_of_toList_eq ?_ ?_, .inr ⟨rfl, some_stem⟩⟩
    · have stem_free : '/' ∉ stem name := fun member =>
        free (whole ▸ List.mem_append_left _ member)
      simp [stem_free]
    · rw [text]
      generalize stem name = base at whole
      subst whole
      have kept : (base ++ '.' :: extension).length -
          ((base ++ '.' :: extension).length - base.length - 1) = base.length + 1 := by
        simp only [List.length_append, List.length_cons]
        omega
      rw [kept, List.take_length_add_append, List.take_succ_cons, List.take_zero]

/-- With another extension a path ends in another name behind the same segments, unless it ends in no
name without the old one. -/
theorem segments_withExtension (ends : EndsIn path front name) {extension : String}
    (plain : '/' ∉ extension.toList) :
    segments (withExtension path extension).toList =
        front ++ [stem name ++ '.' :: extension.toList] ∨
      segments (withExtension path extension).toList = front ++ [['.', '.']] := by
  obtain ⟨bare, bare_segments, shape⟩ := ends.segments_withoutExtension
  have stem_free : '/' ∉ stem name := by
    have free := ends.free_of_mem (List.mem_append_right front (List.mem_singleton_self name))
    rcases stem_cases name with own | ⟨-, _, -, whole⟩
    · rwa [own]
    · exact fun member => free (whole ▸ List.mem_append_left _ member)
  have same_stem : stem bare = stem name := by
    rcases shape with ⟨rfl, -⟩ | ⟨rfl, some_stem⟩
    · rfl
    · exact stem_append some_stem List.not_mem_nil
  by_cases is_name : IsName bare
  · left
    have bare_ends : EndsIn (withoutExtension path) front bare := ⟨bare_segments, is_name⟩
    apply ends.segments_of_toList_eq
    · simp [stem_free, plain]
    · simp only [withExtension, bare_ends.lastName?_eq, same_stem, List.reverse_cons,
        List.reverse_reverse, joined, Text.joined_concat, String.toList_ofList, List.append_assoc]
  · right
    have dots : bare = ['.', '.'] := by
      rcases shape with ⟨rfl, -⟩ | ⟨rfl, some_stem⟩
      · exact absurd ends.is_name is_name
      · simpa [IsName, some_stem] using is_name
    subst dots
    have nameless : lastName? (withoutExtension path) = none := by
      have spoken_eq : spoken (withoutExtension path) = ['.', '.'] :: front.reverse := by
        rw [spoken, bare_segments, List.reverse_append, List.reverse_singleton,
          List.singleton_append]
        cases front.reverse with
        | nil => rfl
        | cons above others => simp [trimmedReversed, isSilent]
      simp [lastName?, spoken_eq]
    simp only [withExtension, nameless, bare_segments]

/-- A path that ends in a name leads to the name in the directory that its other segments lead to. -/
theorem destination_eq (ends : EndsIn path front name) :
    destination path = resolve [] (front.map String.ofList) ++ [String.ofList name] := by
  obtain ⟨some_name, no_dot, no_dots⟩ := ends.is_name
  have other {segment : List Char} (unlike : name ≠ segment) :
      String.ofList name ≠ String.ofList segment :=
    fun same => unlike (String.ofList_injective same)
  rw [destination, ends.segments_eq, List.map_append, resolve_append]
  exact (if_neg (not_or.mpr ⟨other some_name, other no_dot⟩)).trans (if_neg (other no_dots))

/-- With another extension a path leads elsewhere, unless the extension was the same. -/
theorem destination_withExtension_ne (ends : EndsIn path front name) {extension : String}
    (plain : '/' ∉ extension.toList) (some_extension : 0 < extension.toList.length)
    (apart : name ≠ stem name ++ '.' :: extension.toList) :
    destination (withExtension path extension) ≠ destination path := by
  intro same
  rcases ends.segments_withExtension plain with named | dots
  · have some_stem : 0 < (stem name).length := List.length_pos_iff.mpr (stem_ne_nil ends.is_name.1)
    have other_ends : EndsIn (withExtension path extension) front
        (stem name ++ '.' :: extension.toList) := by
      refine ⟨named, isName_of_long ?_⟩
      rw [List.length_append, List.length_cons]
      omega
    rw [ends.destination_eq, other_ends.destination_eq, List.append_singleton_inj] at same
    exact apart (String.ofList_injective same.2).symm
  · rw [ends.destination_eq, destination_of_dots dots] at same
    have lengths := congrArg List.length same
    rw [List.length_dropLast, List.length_append, List.length_singleton] at lengths
    omega

/-- What follows the stem of a name is its extension. -/
theorem extension?_of_eq (ends : EndsIn path front name) {tail : List Char}
    (whole : name = stem name ++ '.' :: tail) : '.' ∉ tail ∧ extension? path = some tail := by
  have apart : stem name ≠ name := by
    intro same
    rw [same] at whole
    simpa using congrArg List.length whole
  rcases stem_cases name with own | ⟨-, extension, plain, also⟩
  · exact absurd own apart
  · have same : tail = extension := by
      have both := whole.symm.trans also
      simpa using both
    subst same
    refine ⟨plain, ?_⟩
    have behind : name.drop ((stem name).length + 1) = tail := by
      generalize stem name = base at whole
      subst whole
      simp
    simp [extension?, ends.lastName?_eq, apart, behind]

end EndsIn

end Path

end AccountRelay
