/-! # Pieces of a text

A text cut at every occurrence of a character. Put together again with that character between them,
the pieces are the text (`joined_pieces`).
-/

namespace AccountRelay.Text

/-- The pieces between the separators of a text; there is always at least one. -/
def pieces (separator : Char) : List Char → List (List Char)
  | [] => [[]]
  | c :: rest =>
    if c = separator then [] :: pieces separator rest
    else
      match pieces separator rest with
      | first :: others => (c :: first) :: others
      | [] => [[c]]

/-- The text that consists of pieces with a separator between them. -/
def joined (separator : Char) : List (List Char) → List Char
  | [] => []
  | [last] => last
  | first :: rest => first ++ separator :: joined separator rest

/-- Every text has at least one piece. -/
theorem pieces_ne_nil (separator : Char) (text : List Char) : pieces separator text ≠ [] := by
  cases text with
  | nil => simp [pieces]
  | cons c rest =>
    unfold pieces
    split
    · simp
    · split <;> simp

/-- The pieces of a text, joined again, are the text. -/
theorem joined_pieces (separator : Char) (text : List Char) :
    joined separator (pieces separator text) = text := by
  induction text with
  | nil => rfl
  | cons c rest ih =>
    unfold pieces
    cases found : pieces separator rest with
    | nil => exact absurd found (pieces_ne_nil separator rest)
    | cons first others =>
      rw [found] at ih
      split
      · next same => subst same; simp [joined, ih]
      · cases others with
        | nil => simp_all [joined]
        | cons second others => simp_all [joined]

end AccountRelay.Text
