import AccountRelay.Bytes
import AccountRelay.Text.Alphanumeric
import AccountRelay.Text.Blank

/-! # Files of settings

A file of settings has one assignment a line: a name, an equals sign and a value, with blanks around
each of them. Quotes keep blanks and line breaks in a value; a backslash keeps the next character;
`$` and a name stand for the value of another setting; a `#` behind a blank starts a remark.
`EnvironmentFile.read` takes a file to its assignments and stops at the first line that is none.
-/

namespace AccountRelay.EnvironmentFile

/-- A part of a value. -/
inductive Piece
  | char (c : Char)
  /-- The value of a setting. -/
  | setting (name : String)
deriving DecidableEq

/-- A setting and its value. -/
structure Assignment where
  name : String
  value : List Piece
deriving DecidableEq

/-- How a line goes on after a character, as far as it matters for where it ends. -/
inductive Mode
  | plain
  /-- Behind a blank. -/
  | blank
  /-- Behind a backslash. -/
  | escape
  | singleQuoted
  | singleQuotedEscape
  | doubleQuoted
  | doubleQuotedEscape
deriving DecidableEq

/-- The mode behind a character; a remark has none. -/
def Mode.next? : Mode → Char → Option Mode
  | .blank, '#' => none
  | .blank, '\\' | .plain, '\\' => some .escape
  | .blank, '"' | .plain, '"' => some .doubleQuoted
  | .blank, '\'' | .plain, '\'' => some .singleQuoted
  | .blank, _ => some .plain
  | .plain, c => some (if Text.isBlank c && c ≠ '\n' && c ≠ '\r' then .blank else .plain)
  | .escape, _ => some .plain
  | .singleQuoted, '\\' => some .singleQuotedEscape
  | .singleQuoted, '\'' => some .plain
  | .singleQuoted, _ | .singleQuotedEscape, _ => some .singleQuoted
  | .doubleQuoted, '\\' => some .doubleQuotedEscape
  | .doubleQuoted, '"' => some .plain
  | .doubleQuoted, _ | .doubleQuotedEscape, _ => some .doubleQuoted

/-- The characters in front of a remark and the mode at their end, or no mode at a remark. -/
def scanLine (mode : Mode) : List Char → List Char × Option Mode
  | [] => ([], some mode)
  | c :: rest =>
    match mode.next? c with
    | none => ([], none)
    | some mode =>
      let (kept, mode) := scanLine mode rest
      (c :: kept, mode)

/-- The lines of a text, each with the line break at its end. -/
def physicalLines : List Char → List (List Char)
  | [] => []
  | c :: rest =>
    if c = '\n' then [c] :: physicalLines rest
    else
      match physicalLines rest with
      | line :: others => (c :: line) :: others
      | [] => [[c]]

/-- Lines put together until quotes are closed. The text stops at a line that is never finished.
`begun` holds what has been read of a line that is not finished yet. -/
def logicalLines (begun : List Char) (mode : Mode) : List (List Char) → List (List Char)
  | [] => []
  | line :: rest =>
    if ((begun ++ line).dropWhile Text.isBlank).head? = some '#' then logicalLines [] .plain rest
    else
      match scanLine mode line with
      | (kept, none) => (begun ++ kept) :: logicalLines [] .plain rest
      | (_, some .plain) => (begun ++ line) :: logicalLines [] .plain rest
      | (_, some mode) => logicalLines (begun ++ line) mode rest

/-- How the reading of a value goes on. -/
inductive ValueMode
  | plain
  /-- Behind a backslash; in double quotes or not. -/
  | escape (quoted : Bool)
  | singleQuoted
  | doubleQuoted
  /-- In a name behind `$`; in double quotes or not. -/
  | bare (name : List Char) (quoted : Bool)
  /-- In a name between braces; in double quotes or not. -/
  | braced (name : List Char) (quoted : Bool)
  /-- Behind the blank at the end. -/
  | ended
deriving DecidableEq

/-- The mode outside names and escapes. -/
def ValueMode.within (quoted : Bool) : ValueMode :=
  if quoted then .doubleQuoted else .plain

/-- The character that a backslash and a letter stand for. -/
def unescaped? (c : Char) : Option Char :=
  if c = 'n' then some '\n'
  else if "\\'\"$ ".toList.contains c then some c
  else none

/-- The part that a name stands for; no name stands for nothing. -/
def namePiece (name : List Char) : List Piece :=
  if name.isEmpty then [] else [.setting (String.ofList name)]

/-- The parts of a value. -/
def valuePieces? : ValueMode → List Char → Option (List Piece)
  | .plain, [] | .escape false, [] | .ended, [] => some []
  | .bare name false, [] => some (namePiece name)
  | _, [] => none
  | .ended, c :: rest =>
    if c = ' ' ∨ c = '\t' then valuePieces? .ended rest
    else if c = '#' then some []
    else none
  | .escape quoted, c :: rest => do
    let c ← unescaped? c
    return .char c :: (← valuePieces? (.within quoted) rest)
  | .singleQuoted, c :: rest =>
    if c = '\'' then valuePieces? .plain rest
    else do return .char c :: (← valuePieces? .singleQuoted rest)
  | .bare name quoted, c :: rest =>
    if Text.isAlphanumeric c then valuePieces? (.bare (name ++ [c]) quoted) rest
    else if c = '{' ∧ name = [] then valuePieces? (.braced [] quoted) rest
    else if c = '$' then do return namePiece name ++ (← valuePieces? (.bare [] quoted) rest)
    else do return namePiece name ++ .char c :: (← valuePieces? (.within quoted) rest)
  | .braced name quoted, c :: rest =>
    if c = '}' then do return namePiece name ++ (← valuePieces? (.within quoted) rest)
    else valuePieces? (.braced (name ++ [c]) quoted) rest
  | .doubleQuoted, c :: rest =>
    if c = '$' then valuePieces? (.bare [] true) rest
    else if c = '"' then valuePieces? .plain rest
    else if c = '\\' then valuePieces? (.escape true) rest
    else do return .char c :: (← valuePieces? .doubleQuoted rest)
  | .plain, c :: rest =>
    if c = '$' then valuePieces? (.bare [] false) rest
    else if c = '\'' then valuePieces? .singleQuoted rest
    else if c = '"' then valuePieces? .doubleQuoted rest
    else if c = '\\' then valuePieces? (.escape false) rest
    else if c = ' ' ∨ c = '\t' then valuePieces? .ended rest
    else do return .char c :: (← valuePieces? .plain rest)

/-- Whether a character can start a name. -/
def startsName (c : Char) : Bool :=
  c.isAlpha || c = '_'

/-- Whether a character can stand in a name. -/
def continuesName (c : Char) : Bool :=
  c.isAlphanum || c = '_' || c = '.'

/-- A name and what follows it and the blanks behind it. -/
def name? : List Char → Option (List Char × List Char)
  | [] => none
  | c :: rest =>
    if startsName c then
      some ((c :: rest).takeWhile continuesName,
        ((c :: rest).dropWhile continuesName).dropWhile Text.isBlank)
    else none

/-- The name of an assignment, behind an optional `export`, and what follows the equals sign. -/
def assignedName? (line : List Char) : Option (List Char × List Char) := do
  let (name, rest) ← name? line
  match rest with
  | '=' :: rest => return (name, rest)
  | _ =>
    if name = "export".toList then
      match ← name? rest with
      | (name, '=' :: rest) => return (name, rest)
      | _ => none
    else none

/-- Whether there is nothing or a remark. -/
def isIdle (text : List Char) : Bool :=
  text.isEmpty || text.head? = some '#'

/-- The assignment in a line, if the line holds one; a line that is not sound has no answer. -/
def assignment? (line : List Char) : Option (Option Assignment) :=
  let line := Text.trimmed line
  if isIdle line then some none
  else do
    let (name, rest) ← assignedName? line
    let text := rest.dropWhile Text.isBlank
    let value ← if isIdle text then some [] else valuePieces? .plain text
    return some { name := String.ofList name, value }

/-- The assignments in front of the first line that is not sound. -/
def soundAssignments : List (List Char) → List Assignment
  | [] => []
  | line :: rest =>
    match assignment? line with
    | none => []
    | some none => soundAssignments rest
    | some (some assignment) => assignment :: soundAssignments rest

/-- The lines of bytes, each with the line break at its end. -/
def byteLines : Bytes → List Bytes
  | [] => []
  | byte :: rest =>
    if byte = 0x0A then [byte] :: byteLines rest
    else
      match byteLines rest with
      | line :: others => (byte :: line) :: others
      | [] => [[byte]]

/-- The text of the lines in front of the first one that is no text. -/
def soundText : List Bytes → List Char
  | [] => []
  | line :: rest =>
    match Bytes.text? line with
    | some text => text.toList ++ soundText rest
    | none => []

/-- The assignments of a file, in front of the first line that is not sound. A mark of the order of
bytes at the start does not count. -/
def read (content : Bytes) : List Assignment :=
  let text := match soundText (byteLines content) with
    | '\ufeff' :: text => text
    | text => text
  soundAssignments (logicalLines [] .plain (physicalLines text))

end AccountRelay.EnvironmentFile
