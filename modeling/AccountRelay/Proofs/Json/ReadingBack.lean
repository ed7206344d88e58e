import AccountRelay.Json.Printer
import AccountRelay.Proofs.Json.Reading

/-! # Reading documents back

A document that is written with one member or item a line is read back as it was
(`Json.read_pretty`), as long as its numbers are natural and its texts need no escapes
(`Node.IsPlain`): line breaks and indentation are blanks, and what stands between them is the tokens of
the document.
-/

namespace AccountRelay.Json

/-- A character that stands for itself in a string. -/
def Piece.IsPlain : Piece → Prop
  | .char c => 0x20 ≤ c.toNat ∧ c ≠ '"' ∧ c ≠ '\\'
  | .unit _ => False

/-- A document of natural numbers and of texts without escapes. -/
inductive Node.IsPlain : Node → Prop
  | null : IsPlain .null
  | bool (value : Bool) : IsPlain (.bool value)
  | ofNat (number : Nat) : IsPlain (.ofNat number)
  | string {pieces : List Piece} (plain : ∀ piece ∈ pieces, piece.IsPlain) : IsPlain (.string pieces)
  | array {items : List Node} (plain : ∀ item ∈ items, item.IsPlain) : IsPlain (.array items)
  | object {members : List (List Piece × Node)}
      (keys_plain : ∀ member ∈ members, ∀ piece ∈ member.1, piece.IsPlain)
      (plain : ∀ member ∈ members, member.2.IsPlain) : IsPlain (.object members)

/-! ## Tokens -/

/-- The break before an item is white space, however deep the item stands. -/
theorem blank_lineBreak (level : Nat) : Blank (lineBreak level) := by
  intro c member
  rcases List.mem_cons.mp member with rfl | indents
  · decide
  · rw [List.eq_of_mem_replicate indents]
    decide

/-- A plain character stands for itself inside a text. -/
theorem escapedChar_eq {c : Char} (plain : (Piece.char c).IsPlain) : escapedChar c = [c] := by
  obtain ⟨visible, no_quote, no_backslash⟩ := plain
  have no_control (control : Char) (below : control.toNat < 0x20) : c ≠ control := by
    rintro rfl
    omega
  simp [escapedChar, no_quote, no_backslash, no_control '\x08' (by decide),
    no_control '\x0c' (by decide), no_control '\n' (by decide), no_control '\r' (by decide),
    no_control '\t' (by decide), Nat.not_lt.mpr visible]

/-- A plain piece, as it is rendered, is a spelling the grammar has for that piece. -/
theorem Piece.IsPlain.writtenAs_render {piece : Piece} (plain : piece.IsPlain) :
    piece.WrittenAs piece.render := by
  cases piece with
  | unit code => exact plain.elim
  | char c =>
      rw [Piece.render, escapedChar_eq plain]
      exact .plain plain.1 plain.2.1 plain.2.2

/-- Plain pieces rendered one after another spell the text they make up. -/
theorem allWrittenAs_flatMap_render {pieces : List Piece} (plain : ∀ piece ∈ pieces, piece.IsPlain) :
    Piece.AllWrittenAs pieces (pieces.flatMap Piece.render) := by
  induction pieces with
  | nil => exact .nil
  | cons piece pieces ih =>
      obtain ⟨here, behind⟩ := List.forall_mem_cons.mp plain
      exact .cons here.writtenAs_render (ih behind)

/-- The digits of base ten are the ones the grammar calls digits. -/
theorem isDigit_digit : ∀ value < 10, (Numeral.digit value).isDigit = true := by decide

/-- The decimal form of a number is a row of digits. -/
theorem areDigits_render (number : Nat) : AreDigits (Numeral.render 10 number) := by
  refine ⟨?_, ?_⟩
  · rw [Numeral.render, Ne, List.map_eq_nil_iff]
    exact Numeral.digitsOf_ne_nil 10 number
  · intro c member
    obtain ⟨value, value_mem, rfl⟩ := List.mem_map.mp member
    exact isDigit_digit value (Numeral.digitsOf_lt (by decide) number value value_mem)

/-- Only zero is written with a leading zero. -/
theorem render_eq_of_head? {number : Nat} (zero : (Numeral.render 10 number).head? = some '0') :
    Numeral.render 10 number = ['0'] := by
  rw [Numeral.render, List.head?_map, Option.map_eq_some_iff] at zero
  obtain ⟨first, starts, same⟩ := zero
  have small := Numeral.digitsOf_lt (by decide) number first (List.mem_of_head? starts)
  rw [Numeral.eq_zero_of_digit_eq first (Nat.lt_trans small (by decide)) same] at starts
  rw [Numeral.head?_digitsOf_eq_zero_iff.mp starts, Numeral.render, Numeral.digitsOf_zero]
  rfl

/-- The decimal form of a number is a literal without sign, fraction or exponent. -/
theorem writtenAs_render (number : Nat) :
    Literal.WrittenAs ⟨false, Numeral.render 10 number, [], none⟩ (Numeral.render 10 number) := by
  have written : Literal.WrittenAs ⟨false, Numeral.render 10 number, [], none⟩ _ :=
    .intro (areDigits_render number) render_eq_of_head? .absent .absent
  simpa using written

/-! ## Values -/

/-- Whether a node is laid out in tokens at every level, whatever the text goes on with. -/
def Node.LaysOut (node : Node) (tokens : List Token) : Prop :=
  ∀ (level : Nat) {more : List Token} {rest : List Char}, LaidOut more rest →
    LaidOut (tokens ++ more) (node.prettyAt level ++ rest)

/-- A number is printed in its decimal form at every depth. -/
theorem Node.prettyAt_ofNat (level number : Nat) :
    (Node.ofNat number).prettyAt level = Numeral.render 10 number := by
  simp [Node.ofNat, Node.prettyAt, Literal.render]

/-- Where each item is a part of some whole, the items are the parts of a list of wholes. -/
theorem exists_map_eq {α β : Type} {part : β → α} {holds : β → Prop} {items : List α}
    (each : ∀ item ∈ items, ∃ whole, part whole = item ∧ holds whole) :
    ∃ wholes : List β, wholes.map part = items ∧ ∀ whole ∈ wholes, holds whole := by
  induction items with
  | nil => exact ⟨[], rfl, List.forall_mem_nil _⟩
  | cons item items ih =>
      obtain ⟨⟨whole, rfl, own⟩, behind⟩ := List.forall_mem_cons.mp each
      obtain ⟨wholes, rfl, others⟩ := ih behind
      exact ⟨whole :: wholes, rfl, List.forall_mem_cons.mpr ⟨own, others⟩⟩

variable {more : List Token} {rest : List Char}

/-- Items that lay out their tokens lay out, between brackets and commas, the tokens of the array. -/
theorem laidOut_prettyItems {items : List WrittenItem}
    (each : ∀ item ∈ items, item.item.LaysOut item.tokens)
    (laid : LaidOut more rest) (level : Nat) :
    LaidOut (listed (items.map WrittenItem.tokens) ++ [']'] :: more)
      (Node.prettyItems level (items.map WrittenItem.item) ++ rest) := by
  have closed := (laid.cons [']']).append (blank_lineBreak (level - 1))
  induction items with
  | nil =>
      simpa only [List.map_nil, listed, Node.prettyItems, List.append_assoc, List.nil_append] using closed
  | cons item items ih =>
      obtain ⟨here, behind⟩ := List.forall_mem_cons.mp each
      cases items with
      | nil =>
          have all := (here level closed).append (blank_lineBreak level)
          simpa only [List.map_cons, List.map_nil, listed, Node.prettyItems, List.append_assoc] using all
      | cons next items =>
          have all := (here level ((ih behind).cons [','])).append (blank_lineBreak level)
          simpa only [List.map_cons, listed, Node.prettyItems, List.append_assoc, List.cons_append,
            List.nil_append] using all

/-- Members that lay out their tokens, under keys written as they are rendered, lay out the tokens of
the object. -/
theorem laidOut_prettyMembers {members : List WrittenMember}
    (keys_rendered : ∀ member ∈ members, member.keyText = member.key.flatMap Piece.render)
    (each : ∀ member ∈ members, member.value.LaysOut member.valueTokens)
    (laid : LaidOut more rest) (level : Nat) :
    LaidOut (listed (members.map WrittenMember.tokens) ++ ['}'] :: more)
      (Node.prettyMembers level (members.map WrittenMember.member) ++ rest) := by
  have closed := (laid.cons ['}']).append (blank_lineBreak (level - 1))
  have blank : Blank [' '] := by simp [Blank]
  induction members with
  | nil =>
      simpa only [List.map_nil, listed, Node.prettyMembers, List.append_assoc, List.nil_append]
        using closed
  | cons member members ih =>
      obtain ⟨rendered, behind_rendered⟩ := List.forall_mem_cons.mp keys_rendered
      obtain ⟨here, behind⟩ := List.forall_mem_cons.mp each
      have keyed {more : List Token} {rest : List Char} (laid : LaidOut more rest) :=
        ((((here level laid).append blank).cons [':']).cons (quoted member.keyText)).append
          (blank_lineBreak level)
      cases members with
      | nil =>
          have all := keyed closed
          rw [rendered] at all
          simpa [listed, WrittenMember.tokens, WrittenMember.member,
            Node.prettyMembers, rendered, quoted, quotePieces] using all
      | cons next members =>
          have all := keyed ((ih behind_rendered behind).cons [','])
          rw [rendered] at all
          simpa [listed, WrittenMember.tokens, WrittenMember.member,
            Node.prettyMembers, rendered, quoted, quotePieces] using all

/-- What is printed of a plain document is some row of tokens the grammar gives it. -/
theorem Node.IsPlain.exists_laysOut {node : Node} (plain : node.IsPlain) :
    ∃ tokens, node.WrittenWith tokens ∧ node.LaysOut tokens := by
  -- Depth only changes white space, so the tokens are found before the level is given.
  induction plain with
  | null => exact ⟨_, .null, fun _ _ _ laid => laid.cons _⟩
  | bool value =>
      refine ⟨_, .bool value, fun level more rest laid => ?_⟩
      cases value with
      | false => exact laid.cons _
      | true => exact laid.cons _
  | ofNat number =>
      refine ⟨_, .number (writtenAs_render number), fun level more rest laid => ?_⟩
      rw [Node.prettyAt_ofNat]
      exact laid.cons _
  | string plain =>
      exact ⟨_, .string (allWrittenAs_flatMap_render plain), fun _ _ _ laid => laid.cons _⟩
  | @array items plain each =>
      have tokens_each : ∀ item ∈ items, ∃ whole : WrittenItem, whole.item = item ∧
          whole.item.WrittenWith whole.tokens ∧ whole.item.LaysOut whole.tokens := by
        intro item member
        obtain ⟨tokens, both⟩ := each item member
        exact ⟨⟨item, tokens⟩, rfl, both⟩
      obtain ⟨written, rfl, all⟩ := exists_map_eq tokens_each
      refine ⟨_, .array fun item member => (all item member).1, fun level more rest laid => ?_⟩
      cases written with
      | nil => exact (laid.cons [']']).cons ['[']
      | cons item items =>
          have inside := laidOut_prettyItems (fun item member => (all item member).2) laid (level + 1)
          simpa only [List.map_cons, Node.prettyAt, List.cons_append, List.append_assoc,
            List.nil_append] using inside.cons ['[']
  | @object members keys_plain plain each =>
      have tokens_each : ∀ member ∈ members, ∃ whole : WrittenMember, whole.member = member ∧
          whole.value.WrittenWith whole.valueTokens ∧ whole.value.LaysOut whole.valueTokens ∧
            whole.keyText = whole.key.flatMap Piece.render := by
        intro (key, value) among
        obtain ⟨tokens, written, lays⟩ := each (key, value) among
        exact ⟨⟨key, key.flatMap Piece.render, value, tokens⟩, rfl, written, lays, rfl⟩
      obtain ⟨written, rfl, all⟩ := exists_map_eq tokens_each
      have keys_written : ∀ member ∈ written, Piece.AllWrittenAs member.key member.keyText := by
        intro member among
        rw [(all member among).2.2]
        exact allWrittenAs_flatMap_render (keys_plain _ (List.mem_map_of_mem among))
      refine ⟨_, .object keys_written fun member among => (all member among).1,
        fun level more rest laid => ?_⟩
      cases written with
      | nil => exact (laid.cons ['}']).cons ['{']
      | cons member members =>
          have inside := laidOut_prettyMembers (fun member among => (all member among).2.2)
            (fun member among => (all member among).2.1) laid (level + 1)
          simpa only [List.map_cons, Node.prettyAt, List.cons_append, List.append_assoc,
            List.nil_append] using inside.cons ['{']

/-- **A plain document is read back from its text.** -/
theorem read_pretty {node : Node} (plain : node.IsPlain) : read node.pretty.toList = some node := by
  obtain ⟨tokens, written, lays⟩ := plain.exists_laysOut
  have nothing : LaidOut [] [] := List.forall_mem_nil _
  have all := lays 0 nothing
  rw [List.append_nil, List.append_nil] at all
  rw [read_eq_some_iff, Node.pretty, String.toList_ofList]
  exact ⟨tokens, written, all⟩

end AccountRelay.Json
