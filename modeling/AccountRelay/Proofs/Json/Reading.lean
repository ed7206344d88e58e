import AccountRelay.Proofs.Json.Tokens

/-! # Reading what is spelled

A text is read as a node exactly when it spells that node (`Json.read_eq_some_iff`): a node is read from
its tokens however they are laid out (`Node.WrittenWith.readFrom`), and what was read is laid out in
front of what is left over (`readsWritten`).
-/

namespace AccountRelay.Json

variable {tokens : List Token} {text rest : List Char}

/-! ## Values -/

variable {more : List Token}

/-- Whether tokens do not go on with a value in front of them. -/
def Closes (more : List Token) : Prop :=
  ∀ token ∈ more.head?, token ∈ [[','], [']'], ['}']]

/-- A text laid out from a token that closes cannot prolong a number in front of it. -/
theorem LaidOut.endsNumber (laid : LaidOut more text) (closes : Closes more) : EndsNumber text := by
  cases more with
  | nil =>
      have ends : EndsNumber [] := nofun
      rw [← List.append_nil text]
      exact ends.of_blank_append laid
  | cons token more =>
      obtain ⟨blanks, rest, blank, rfl, -⟩ := laid
      refine EndsNumber.of_blank_append blank ?_
      have among := closes token rfl
      simp only [List.mem_cons, List.not_mem_nil, or_false] at among
      rcases among with rfl | rfl | rfl <;> rintro c ⟨⟩ <;> decide

/-- The first token of a value is not blank, and closes nothing. -/
theorem Node.WrittenWith.exists_first {node : Node} (written : node.WrittenWith tokens) :
    ∃ c token others, tokens = (c :: token) :: others ∧ isSpace c = false ∧ c ≠ ']' ∧ c ≠ '}' := by
  cases written with
  | null | string | array | object => exact ⟨_, _, _, rfl, by decide⟩
  | bool value =>
      cases value with
      | true => exact ⟨_, _, _, rfl, by decide⟩
      | false => exact ⟨_, _, _, rfl, by decide⟩
  | number written =>
      obtain ⟨c, others, rfl, numeric⟩ := written.exists_first
      refine ⟨c, others, [], rfl, ?_⟩
      rcases numeric with rfl | digit
      · decide
      · refine ⟨?_, ?_, ?_⟩
        · rw [← Bool.not_eq_true, isSpace_iff]
          intro among
          simp only [List.mem_cons, List.not_mem_nil, or_false] at among
          rcases among with rfl | rfl | rfl | rfl <;> cases digit
        · rintro rfl
          cases digit
        · rintro rfl
          cases digit

/-- A text that starts like a number is read as one. -/
theorem readValue?_of_numeric {c : Char} (numeric : c = '-' ∨ c.isDigit = true) (fuel : Nat)
    (text : List Char) :
    readValue? (fuel + 1) (c :: text) =
      (readNumber? (c :: text)).map fun (literal, rest) => (.number literal, rest) := by
  have apart (other : Char) (no_number : other ≠ '-' ∧ other.isDigit = false) : c ≠ other := by
    rintro rfl
    rcases numeric with rfl | digit
    · exact no_number.1 rfl
    · rw [no_number.2] at digit
      cases digit
  rw [readValue?]
  · cases readNumber? (c :: text) with
    | none => rfl
    | some found => rfl
  all_goals
    intro rest same
    exact apart _ (by decide) (List.cons.inj same).1

/-- An array that is not closed at once has items. -/
theorem readValue?_array {c : Char} (opens : skipSpace text = c :: rest) (no_end : c ≠ ']')
    (fuel : Nat) :
    readValue? (fuel + 1) ('[' :: text) =
      (readItems? fuel (skipSpace text)).map fun (items, rest) => (.array items, rest) := by
  rw [readValue?, opens]
  split
  · rename_i same
    exact absurd (List.cons.inj same).1 no_end
  · cases readItems? fuel (c :: rest) with
    | none => rfl
    | some found => rfl

/-- An object that is not closed at once has members. -/
theorem readValue?_object {c : Char} (opens : skipSpace text = c :: rest) (no_end : c ≠ '}')
    (fuel : Nat) :
    readValue? (fuel + 1) ('{' :: text) =
      (readMembers? fuel (skipSpace text)).map fun (members, rest) => (.object members, rest) := by
  rw [readValue?, opens]
  split
  · rename_i same
    exact absurd (List.cons.inj same).1 no_end
  · cases readMembers? fuel (c :: rest) with
    | none => rfl
    | some found => rfl

/-- Whether a node is read from its tokens, whatever closes it. -/
def Node.ReadFrom (node : Node) (tokens : List Token) : Prop :=
  ∀ {fuel : Nat} {text : List Char} {more : List Token}, tokens.length ≤ fuel →
    LaidOut (tokens ++ more) text → Closes more →
    ∃ rest, readValue? fuel (skipSpace text) = some (node, rest) ∧ LaidOut more rest

/-- A comma and the two closing brackets close whatever stands before them. -/
theorem closes_cons {token : Token} (among : token ∈ [[','], [']'], ['}']]) (more : List Token) :
    Closes (token :: more) := by
  rintro _ ⟨⟩
  exact among

/-- The items of an array are read one after another. -/
theorem readItems?_of_laidOut {items : List WrittenItem}
    (read : ∀ item ∈ items, item.item.ReadFrom item.tokens) (some_item : items ≠ []) {fuel : Nat}
    (enough : (listed (items.map WrittenItem.tokens)).length < fuel)
    (laid : LaidOut (listed (items.map WrittenItem.tokens) ++ [']'] :: more) text) :
    ∃ rest, readItems? fuel (skipSpace text) = some (items.map WrittenItem.item, rest) ∧
      LaidOut more rest := by
  induction items generalizing fuel text with
  | nil => exact absurd rfl some_item
  | cons item others ih =>
      obtain ⟨item_read, others_read⟩ := List.forall_mem_cons.mp read
      obtain ⟨fuel, rfl⟩ := Nat.exists_eq_add_one_of_ne_zero (Nat.ne_zero_of_lt enough)
      cases others with
      | nil =>
          simp only [List.map_cons, List.map_nil, listed] at enough laid
          obtain ⟨behind, reads, closing⟩ :=
            item_read (Nat.le_of_lt_succ enough) laid (closes_cons (by decide) more)
          obtain ⟨rest, closed, laid⟩ := closing.exists_skipSpace_eq (by decide)
          refine ⟨rest, ?_, laid⟩
          rw [readItems?, reads]
          simp only [Option.bind_eq_bind, Option.bind_some, closed, List.nil_append, Option.pure_def,
            List.map_cons, List.map_nil]
      | cons next others =>
          simp only [List.map_cons, listed, List.append_assoc, List.cons_append, List.length_append,
            List.length_cons] at enough laid
          have item_enough : item.tokens.length ≤ fuel := by omega
          have others_enough :
              (listed ((next :: others).map WrittenItem.tokens)).length < fuel := by
            simp only [List.map_cons]
            omega
          obtain ⟨behind, reads, separating⟩ :=
            item_read item_enough laid (closes_cons (by decide) _)
          obtain ⟨others_text, separated, laid⟩ := separating.exists_skipSpace_eq (by decide)
          obtain ⟨rest, others_reads, laid⟩ := ih others_read (by simp) others_enough laid
          refine ⟨rest, ?_, laid⟩
          rw [readItems?, reads]
          simp only [Option.bind_eq_bind, Option.bind_some, separated, List.nil_append, others_reads,
            Option.pure_def, List.map_cons]

/-- The parts of a member are read one after another. -/
theorem WrittenMember.exists_read {member : WrittenMember}
    (key_written : Piece.AllWrittenAs member.key member.keyText)
    (value_read : member.value.ReadFrom member.valueTokens) {fuel : Nat}
    (enough : member.valueTokens.length ≤ fuel) (laid : LaidOut (member.tokens ++ more) text)
    (closes : Closes more) :
    ∃ key behind value rest, skipSpace text = '"' :: key ∧
      readString? key = some (member.key, behind) ∧ skipSpace behind = ':' :: value ∧
      readValue? fuel (skipSpace value) = some (member.value, rest) ∧ LaidOut more rest := by
  simp only [WrittenMember.tokens, quoted, List.cons_append] at laid
  obtain ⟨behind, starts, laid⟩ := laid.exists_skipSpace_eq (by decide)
  obtain ⟨value, divided, laid⟩ := laid.exists_skipSpace_eq (by decide)
  obtain ⟨rest, reads, laid⟩ := value_read enough laid closes
  refine ⟨_, behind, value, rest, starts, ?_, divided, reads, laid⟩
  rw [List.append_assoc]
  exact key_written.readString?_append behind

/-- The members of an object are read one after another. -/
theorem readMembers?_of_laidOut {members : List WrittenMember}
    (keys_written : ∀ member ∈ members, Piece.AllWrittenAs member.key member.keyText)
    (read : ∀ member ∈ members, member.value.ReadFrom member.valueTokens)
    (some_member : members ≠ []) {fuel : Nat}
    (enough : (listed (members.map WrittenMember.tokens)).length < fuel)
    (laid : LaidOut (listed (members.map WrittenMember.tokens) ++ ['}'] :: more) text) :
    ∃ rest, readMembers? fuel (skipSpace text) = some (members.map WrittenMember.member, rest) ∧
      LaidOut more rest := by
  induction members generalizing fuel text with
  | nil => exact absurd rfl some_member
  | cons member others ih =>
      obtain ⟨key_written, others_written⟩ := List.forall_mem_cons.mp keys_written
      obtain ⟨value_read, others_read⟩ := List.forall_mem_cons.mp read
      obtain ⟨fuel, rfl⟩ := Nat.exists_eq_add_one_of_ne_zero (Nat.ne_zero_of_lt enough)
      cases others with
      | nil =>
          simp only [List.map_cons, List.map_nil, listed] at enough laid
          have value_enough : member.valueTokens.length ≤ fuel := by
            simp only [WrittenMember.tokens, List.length_cons] at enough
            omega
          obtain ⟨_, _, _, _, starts, key_reads, divided, reads, closing⟩ :=
            WrittenMember.exists_read key_written value_read value_enough laid
              (closes_cons (by decide) more)
          obtain ⟨rest, closed, laid⟩ := closing.exists_skipSpace_eq (by decide)
          refine ⟨rest, ?_, laid⟩
          rw [starts, readMembers?, key_reads]
          simp only [Option.bind_eq_bind, Option.bind_some, divided, List.nil_append, reads, closed,
            Option.pure_def, List.map_cons, List.map_nil, WrittenMember.member]
      | cons next others =>
          simp only [List.map_cons, listed, List.append_assoc, List.cons_append, List.length_append,
            List.length_cons] at enough laid
          have value_enough : member.valueTokens.length ≤ fuel := by
            simp only [WrittenMember.tokens, List.length_cons] at enough
            omega
          have others_enough :
              (listed ((next :: others).map WrittenMember.tokens)).length < fuel := by
            simp only [List.map_cons]
            omega
          obtain ⟨_, _, _, _, starts, key_reads, divided, reads, separating⟩ :=
            WrittenMember.exists_read key_written value_read value_enough laid
              (closes_cons (by decide) _)
          obtain ⟨others_text, separated, laid⟩ := separating.exists_skipSpace_eq (by decide)
          obtain ⟨rest, others_reads, laid⟩ :=
            ih others_written others_read (by simp) others_enough laid
          refine ⟨rest, ?_, laid⟩
          rw [starts, readMembers?, key_reads]
          simp only [Option.bind_eq_bind, Option.bind_some, divided, List.nil_append, reads, separated,
            others_reads, Option.pure_def, List.map_cons, WrittenMember.member]

/-- A node of one token is read from it when the token is read whatever ends a number behind it. -/
theorem readFrom_singleton {node : Node} {c : Char} {token : List Char} (visible : isSpace c = false)
    (reads : ∀ (fuel : Nat) (rest : List Char), EndsNumber rest →
      readValue? (fuel + 1) (c :: (token ++ rest)) = some (node, rest)) :
    node.ReadFrom [c :: token] := by
  intro fuel text more enough laid closes
  obtain ⟨fuel, rfl⟩ := Nat.exists_eq_add_one_of_ne_zero (Nat.ne_zero_of_lt enough)
  obtain ⟨rest, starts, laid⟩ := laid.exists_skipSpace_eq visible
  rw [starts, reads fuel rest (laid.endsNumber closes)]
  exact ⟨rest, rfl, laid⟩

/-- A list of rows, separated by commas, begins with its first row. -/
theorem exists_listed_eq {row : List Token} (rows : List (List Token)) :
    ∃ others, listed (row :: rows) = row ++ others := by
  cases rows with
  | nil => exact ⟨[], (List.append_nil row).symm⟩
  | cons next rows => exact ⟨_, rfl⟩

/-- **A node is read from its tokens**, however they are laid out. -/
theorem Node.WrittenWith.readFrom {node : Node} (written : node.WrittenWith tokens) :
    node.ReadFrom tokens := by
  induction written with
  | null => exact readFrom_singleton (by decide) fun _ _ _ => rfl
  | bool value =>
      cases value with
      | true => exact readFrom_singleton (by decide) fun _ _ _ => rfl
      | false => exact readFrom_singleton (by decide) fun _ _ _ => rfl
  | number written =>
      have number : Node.WrittenWith _ _ := .number written
      obtain ⟨_, _, _, ⟨⟩, visible, -⟩ := number.exists_first
      apply readFrom_singleton visible
      intro fuel rest ends
      obtain ⟨_, _, ⟨⟩, numeric⟩ := written.exists_first
      have reads := written.readNumber?_append ends
      rw [List.cons_append] at reads
      rw [readValue?_of_numeric numeric, reads]
      rfl
  | string written =>
      apply readFrom_singleton (by decide)
      intro fuel rest _
      rw [List.append_assoc, readValue?]
      simp only [List.singleton_append, written.readString?_append, Option.bind_eq_bind,
        Option.bind_some, Option.pure_def]
  | @array items written read =>
      intro fuel text more enough laid closes
      obtain ⟨fuel, rfl⟩ := Nat.exists_eq_add_one_of_ne_zero (Nat.ne_zero_of_lt enough)
      simp only [List.cons_append, List.append_assoc, List.nil_append, List.length_cons,
        List.length_append, List.length_nil] at enough laid
      obtain ⟨behind, starts, laid⟩ := laid.exists_skipSpace_eq (by decide)
      rw [starts, List.nil_append]
      cases items with
      | nil =>
          obtain ⟨rest, closed, laid⟩ := laid.exists_skipSpace_eq (by decide)
          refine ⟨rest, ?_, laid⟩
          rw [readValue?]
          simp only [closed, List.nil_append, List.map_nil]
      | cons item others =>
          have room : (listed ((item :: others).map WrittenItem.tokens)).length < fuel := by omega
          obtain ⟨rest, reads, rest_laid⟩ := readItems?_of_laidOut read (by simp) room laid
          refine ⟨rest, ?_, rest_laid⟩
          -- What follows the bracket is the first item, so the array is not closed at once.
          obtain ⟨c, token, _, first, visible, no_end, -⟩ :=
            (written item List.mem_cons_self).exists_first
          obtain ⟨_, joined⟩ := exists_listed_eq (others.map WrittenItem.tokens)
          rw [List.map_cons, joined, first] at laid
          obtain ⟨_, opens, -⟩ := LaidOut.exists_skipSpace_eq laid visible
          rw [readValue?_array opens no_end, reads]
          rfl
  | @object members keys_written written read =>
      intro fuel text more enough laid closes
      obtain ⟨fuel, rfl⟩ := Nat.exists_eq_add_one_of_ne_zero (Nat.ne_zero_of_lt enough)
      simp only [List.cons_append, List.append_assoc, List.nil_append, List.length_cons,
        List.length_append, List.length_nil] at enough laid
      obtain ⟨behind, starts, laid⟩ := laid.exists_skipSpace_eq (by decide)
      rw [starts, List.nil_append]
      cases members with
      | nil =>
          obtain ⟨rest, closed, laid⟩ := laid.exists_skipSpace_eq (by decide)
          refine ⟨rest, ?_, laid⟩
          rw [readValue?]
          simp only [closed, List.nil_append, List.map_nil]
      | cons member others =>
          have room : (listed ((member :: others).map WrittenMember.tokens)).length < fuel := by omega
          obtain ⟨rest, reads, rest_laid⟩ :=
            readMembers?_of_laidOut keys_written read (by simp) room laid
          refine ⟨rest, ?_, rest_laid⟩
          obtain ⟨_, joined⟩ := exists_listed_eq (others.map WrittenMember.tokens)
          rw [List.map_cons, joined, WrittenMember.tokens, quoted] at laid
          obtain ⟨_, opens, -⟩ := LaidOut.exists_skipSpace_eq laid (by decide)
          rw [readValue?_object opens (by decide), reads]
          rfl

/-- A text is at least as long as the row of tokens it is laid out from. -/
theorem LaidOut.length_le (laid : LaidOut tokens text) (some_character : ∀ token ∈ tokens, token ≠ []) :
    tokens.length ≤ text.length := by
  induction tokens generalizing text with
  | nil => exact Nat.zero_le _
  | cons token tokens ih =>
      obtain ⟨here, behind⟩ := List.forall_mem_cons.mp some_character
      obtain ⟨blanks, rest, -, rfl, laid⟩ := laid
      have token_length := List.length_pos_iff.mpr here
      have rest_length := ih laid behind
      simp only [List.length_append, List.length_cons]
      omega

/-! ## What was read -/

/-- Whether a node is written at the front of a text, with something left over behind it. -/
def Node.InFrontOf (node : Node) (text rest : List Char) : Prop :=
  ∃ tokens, node.WrittenWith tokens ∧ ∀ {more}, LaidOut more rest → LaidOut (tokens ++ more) text

/-- Whether what is read with some fuel is written in front of what is left over. -/
def ReadsWritten (fuel : Nat) : Prop :=
  ∀ {text rest : List Char} {node : Node}, readValue? fuel text = some (node, rest) →
    node.InFrontOf text rest

/-- A mark that was read behind blanks is laid out in front of what is left over. -/
theorem LaidOut.of_skipSpace_cons {c : Char} (starts : skipSpace text = c :: rest)
    (laid : LaidOut more rest) : LaidOut ([c] :: more) text := by
  apply LaidOut.of_skipSpace
  rw [starts]
  exact laid.cons [c]

/-- A quoted text in front of a laid-out rest is one more token. -/
theorem LaidOut.cons_quoted (own : List Char) (laid : LaidOut more rest) :
    LaidOut (quoted own :: more) ('"' :: (own ++ '"' :: rest)) := by
  have laid_out := laid.cons (quoted own)
  simpa only [quoted, List.cons_append, List.append_assoc, List.nil_append] using laid_out

/-- The items the reader takes from a text are laid out there between commas, up to the bracket that
closes the array. -/
theorem exists_writtenItems {bound fuel : Nat} (sound : ∀ fuel < bound, ReadsWritten fuel)
    (within : fuel ≤ bound) {items : List Node} (reads : readItems? fuel text = some (items, rest)) :
    ∃ written : List WrittenItem, written ≠ [] ∧ written.map WrittenItem.item = items ∧
      (∀ item ∈ written, item.item.WrittenWith item.tokens) ∧
      ∀ {more}, LaidOut more rest →
        LaidOut (listed (written.map WrittenItem.tokens) ++ [']'] :: more) text := by
  induction fuel generalizing text items rest with
  | zero => cases reads
  | succ fuel ih =>
      rw [readItems?] at reads
      simp only [Option.bind_eq_bind, Option.bind_eq_some_iff] at reads
      obtain ⟨⟨item, behind⟩, item_reads, reads⟩ := reads
      obtain ⟨tokens, item_written, item_laid⟩ := sound fuel within item_reads
      split at reads
      · rename_i last closed
        cases reads
        refine ⟨[⟨item, tokens⟩], by simp, rfl, List.forall_mem_singleton.mpr item_written, ?_⟩
        intro more laid
        exact item_laid (.of_skipSpace_cons closed laid)
      · rename_i others_text separated
        simp only [Option.bind_eq_some_iff, Option.pure_def, Option.some_inj] at reads
        obtain ⟨⟨others, _⟩, others_read, ⟨⟩⟩ := reads
        obtain ⟨written, some_item, rfl, others_written, others_laid⟩ :=
          ih (Nat.le_of_succ_le within) others_read
        obtain ⟨next, written, rfl⟩ := List.exists_cons_of_ne_nil some_item
        refine ⟨⟨item, tokens⟩ :: next :: written, by simp, rfl,
          List.forall_mem_cons.mpr ⟨item_written, others_written⟩, ?_⟩
        intro more laid
        have all := item_laid (.of_skipSpace_cons separated (others_laid laid).of_skipSpace)
        simpa only [List.map_cons, listed, List.append_assoc, List.cons_append] using all
      · cases reads

/-- The members the reader takes from a text are laid out there, each key before its value, up to the
bracket that closes the object. -/
theorem exists_writtenMembers {bound fuel : Nat} (sound : ∀ fuel < bound, ReadsWritten fuel)
    (within : fuel ≤ bound) {members : List (List Piece × Node)}
    (reads : readMembers? fuel text = some (members, rest)) :
    ∃ written : List WrittenMember, written ≠ [] ∧ written.map WrittenMember.member = members ∧
      (∀ member ∈ written, Piece.AllWrittenAs member.key member.keyText) ∧
      (∀ member ∈ written, member.value.WrittenWith member.valueTokens) ∧
      ∀ {more}, LaidOut more rest →
        LaidOut (listed (written.map WrittenMember.tokens) ++ ['}'] :: more) text := by
  induction fuel generalizing text members rest with
  | zero => cases reads
  | succ fuel ih =>
      unfold readMembers? at reads
      split at reads
      · cases reads
      · rename_i key_text same
        cases same
        simp only [Option.bind_eq_bind, Option.bind_eq_some_iff] at reads
        obtain ⟨⟨key, behind⟩, key_reads, reads⟩ := reads
        obtain ⟨own, key_written, rfl⟩ := exists_allWrittenAs_of_readString? key_reads
        split at reads
        · rename_i value_text divided
          simp only [Option.bind_eq_some_iff] at reads
          obtain ⟨⟨value, behind'⟩, value_reads, reads⟩ := reads
          obtain ⟨tokens, value_written, value_laid⟩ := sound fuel within value_reads
          split at reads
          · rename_i last closed
            cases reads
            refine ⟨[⟨key, own, value, tokens⟩], by simp, rfl, List.forall_mem_singleton.mpr key_written,
              List.forall_mem_singleton.mpr value_written, ?_⟩
            intro more laid
            have valued := value_laid (.of_skipSpace_cons closed laid)
            exact .cons_quoted own (.of_skipSpace_cons divided valued.of_skipSpace)
          · rename_i others_text separated
            simp only [Option.bind_eq_some_iff, Option.pure_def, Option.some_inj] at reads
            obtain ⟨⟨others, _⟩, others_read, ⟨⟩⟩ := reads
            obtain ⟨written, some_member, rfl, others_keys, others_written, others_laid⟩ :=
              ih (Nat.le_of_succ_le within) others_read
            obtain ⟨next, written, rfl⟩ := List.exists_cons_of_ne_nil some_member
            refine ⟨⟨key, own, value, tokens⟩ :: next :: written, by simp, rfl,
              List.forall_mem_cons.mpr ⟨key_written, others_keys⟩,
              List.forall_mem_cons.mpr ⟨value_written, others_written⟩, ?_⟩
            intro more laid
            have valued := value_laid (.of_skipSpace_cons separated (others_laid laid).of_skipSpace)
            have all := LaidOut.cons_quoted own (.of_skipSpace_cons divided valued.of_skipSpace)
            simpa only [List.map_cons, listed, WrittenMember.tokens, List.append_assoc,
              List.cons_append] using all
          · cases reads
        · cases reads
      · cases reads

/-- The reader steps over a word only where the text begins with that word. -/
theorem exists_eq_append_of_after? {word : List Char} (reads : after? word text = some rest) :
    text = word ++ rest := by
  rw [after?, Option.ite_none_right_eq_some, Option.some_inj] at reads
  obtain ⟨begins, rfl⟩ := reads
  exact (List.prefix_iff_eq_append.mp (List.isPrefixOf_iff_prefix.mp begins)).symm

/-- A word the reader knows stands for its value in front of what follows. -/
theorem inFrontOf_word {node : Node} {c : Char} {word : List Char} (written : node.WrittenWith [c :: word])
    (reads : after? word text = some rest) : node.InFrontOf (c :: text) rest := by
  rw [exists_eq_append_of_after? reads]
  exact ⟨_, written, fun laid => laid.cons (c :: word)⟩

/-- A text in quotes stands for its pieces in front of what follows. -/
theorem inFrontOf_string {pieces : List Piece} (reads : readString? text = some (pieces, rest)) :
    (Node.string pieces).InFrontOf ('"' :: text) rest := by
  obtain ⟨own, written, rfl⟩ := exists_allWrittenAs_of_readString? reads
  exact ⟨_, .string written, fun laid => laid.cons_quoted own⟩

/-- A number stands for its literal in front of what follows. -/
theorem inFrontOf_number {literal : Literal} (reads : readNumber? text = some (literal, rest)) :
    (Node.number literal).InFrontOf text rest := by
  obtain ⟨own, written, rfl⟩ := exists_literalWrittenAs reads
  exact ⟨_, .number written, fun laid => laid.cons own⟩

/-- Where every shorter reading is sound, the array the reader finds stands in the text. -/
theorem inFrontOf_array {bound : Nat} (sound : ∀ fuel < bound, ReadsWritten fuel) {items : List Node}
    (reads : readItems? bound (skipSpace text) = some (items, rest)) :
    (Node.array items).InFrontOf ('[' :: text) rest := by
  obtain ⟨written, -, rfl, items_written, items_laid⟩ := exists_writtenItems sound le_rfl reads
  refine ⟨_, .array items_written, fun laid => ?_⟩
  have all := (items_laid laid).of_skipSpace.cons ['[']
  simpa only [List.cons_append, List.append_assoc, List.nil_append] using all

/-- Where every shorter reading is sound, the object the reader finds stands in the text. -/
theorem inFrontOf_object {bound : Nat} (sound : ∀ fuel < bound, ReadsWritten fuel)
    {members : List (List Piece × Node)}
    (reads : readMembers? bound (skipSpace text) = some (members, rest)) :
    (Node.object members).InFrontOf ('{' :: text) rest := by
  obtain ⟨written, -, rfl, keys_written, members_written, members_laid⟩ :=
    exists_writtenMembers sound le_rfl reads
  refine ⟨_, .object keys_written members_written, fun laid => ?_⟩
  have all := (members_laid laid).of_skipSpace.cons ['{']
  simpa only [List.cons_append, List.append_assoc, List.nil_append] using all

/-- **What was read is written in front of what is left over.** -/
theorem readsWritten (fuel : Nat) : ReadsWritten fuel := by
  induction fuel using Nat.strong_induction_on with
  | _ fuel sound =>
      intro text rest node reads
      unfold readValue? at reads
      split at reads
      · cases reads
      rename_i fuel
      -- Items and members are read with less fuel than the node they are in.
      have below : ∀ less < fuel, ReadsWritten less := fun less small =>
        sound less (Nat.lt_succ_of_lt small)
      split at reads
      · obtain ⟨_, string_reads, ⟨⟩⟩ := Option.bind_eq_some_iff.mp reads
        exact inFrontOf_string string_reads
      · split at reads
        · rename_i closed
          cases reads
          exact ⟨_, .array (List.forall_mem_nil _), fun laid =>
            (LaidOut.of_skipSpace_cons closed laid).cons ['[']⟩
        · obtain ⟨_, items_read, ⟨⟩⟩ := Option.bind_eq_some_iff.mp reads
          exact inFrontOf_array below items_read
      · split at reads
        · rename_i closed
          cases reads
          exact ⟨_, .object (List.forall_mem_nil _) (List.forall_mem_nil _), fun laid =>
            (LaidOut.of_skipSpace_cons closed laid).cons ['{']⟩
        · obtain ⟨_, members_read, ⟨⟩⟩ := Option.bind_eq_some_iff.mp reads
          exact inFrontOf_object below members_read
      · obtain ⟨_, word, ⟨⟩⟩ := Option.map_eq_some_iff.mp reads
        exact inFrontOf_word (.bool true) word
      · obtain ⟨_, word, ⟨⟩⟩ := Option.map_eq_some_iff.mp reads
        exact inFrontOf_word (.bool false) word
      · obtain ⟨_, word, ⟨⟩⟩ := Option.map_eq_some_iff.mp reads
        exact inFrontOf_word .null word
      · obtain ⟨_, number_reads, ⟨⟩⟩ := Option.bind_eq_some_iff.mp reads
        exact inFrontOf_number number_reads

/-- The tokens of a node are not empty. -/
theorem Node.WrittenWith.token_ne_nil {node : Node} (written : node.WrittenWith tokens) :
    ∀ token ∈ tokens, token ≠ [] := by
  have joined {rows : List (List Token)} (each : ∀ row ∈ rows, ∀ token ∈ row, token ≠ []) :
      ∀ token ∈ listed rows, token ≠ [] := by
    fun_induction listed rows with
    | case1 => exact List.forall_mem_nil _
    | case2 row => exact each row List.mem_cons_self
    | case3 row rows some_row ih =>
        obtain ⟨here, behind⟩ := List.forall_mem_cons.mp each
        refine List.forall_mem_append.mpr ⟨here, List.forall_mem_cons.mpr ⟨by simp, ih behind⟩⟩
  induction written with
  | null => simp
  | bool value => cases value <;> simp
  | number written =>
      obtain ⟨c, others, rfl, -⟩ := written.exists_first
      simp
  | string written => simp [quoted]
  | array written each =>
      refine List.forall_mem_cons.mpr ⟨by simp, List.forall_mem_append.mpr ⟨joined ?_, by simp⟩⟩
      simpa only [List.forall_mem_map] using each
  | object keys_written written each =>
      refine List.forall_mem_cons.mpr ⟨by simp, List.forall_mem_append.mpr ⟨joined ?_, by simp⟩⟩
      simp only [List.forall_mem_map, WrittenMember.tokens, List.forall_mem_cons]
      intro member among
      exact ⟨by simp [quoted], by simp, each member among⟩

/-- **A text is read as a node exactly when it spells it.** -/
theorem read_eq_some_iff {node : Node} : read text = some node ↔ Spells text node := by
  constructor
  · intro reads
    unfold read at reads
    split at reads
    · rename_i found rest value_reads
      obtain ⟨ends, ⟨⟩⟩ := Option.ite_none_right_eq_some.mp reads
      obtain ⟨tokens, written, laid⟩ := readsWritten _ value_reads
      have blank : LaidOut [] rest := blank_iff_skipSpace.mpr (List.isEmpty_iff.mp ends)
      have all := laid blank
      rw [List.append_nil] at all
      exact ⟨tokens, written, all.of_skipSpace⟩
    · cases reads
  · rintro ⟨tokens, written, laid⟩
    have enough := Nat.le_succ_of_le (laid.length_le written.token_ne_nil)
    rw [← List.append_nil tokens] at laid
    obtain ⟨rest, reads, blank⟩ := written.readFrom enough laid nofun
    unfold read
    rw [reads]
    simp only [blank_iff_skipSpace.mp blank, List.isEmpty_nil, ↓reduceIte]

end AccountRelay.Json
