import AccountRelay.Dialogue
import AccountRelay.EnvironmentFile

/-! # Settings from outside

Settings are variables of the environment, and assignments of a file for those that the environment
does not have. Of several assignments to one name the first one counts, and the value of a setting
inside a value is the one that counts so far.
-/

namespace AccountRelay

/-- The variables of the environment by their names. -/
abbrev Environment : Interface := ⟨String, fun _ => Option String⟩

/-- A computation that asks for variables of the environment. -/
abbrev EnvironmentWork := Dialogue Environment

/-- The value of a variable in a list. A name counts up to the equals sign in front of the value, so
one with an equals sign in it is also found where it goes on into the value of another. -/
def Environment.find? (entries : List (String × String)) (name : String) : Option String :=
  let mark := name.toList ++ ['=']
  entries.findSome? fun (key, value) =>
    let entry := key.toList ++ '=' :: value.toList
    if mark.isPrefixOf entry then some (String.ofList (entry.drop mark.length)) else none

/-- The settings that a file adds to the environment. -/
abbrev Settings := List (String × String)

namespace Settings

variable {ε : Type}

/-- The value of a setting. -/
def lookUp (settings : Settings) (name : String) : EnvironmentWork ε (Option String) :=
  .ask (I := Environment) name fun value => .done (value <|> Environment.find? settings name)

/-- The text that the parts of a value stand for. -/
def textOf (settings : Settings) : List EnvironmentFile.Piece → EnvironmentWork ε (List Char)
  | [] => .done []
  | .char c :: rest => do
    let rest ← textOf settings rest
    return c :: rest
  | .setting name :: rest => do
    let value ← settings.lookUp name
    let rest ← textOf settings rest
    return (value.getD "").toList ++ rest

/-- The settings with those of further assignments. -/
def assign (settings : Settings) :
    List EnvironmentFile.Assignment → EnvironmentWork ε Settings
  | [] => .done settings
  | assignment :: rest => do
    let text ← settings.textOf assignment.value
    match ← settings.lookUp assignment.name with
    | some _ => settings.assign rest
    | none => assign (settings ++ [(assignment.name, String.ofList text)]) rest

/-- The values of several settings, without those that are not set. -/
def select (settings : Settings) : List String → EnvironmentWork ε (List (String × String))
  | [] => .done []
  | name :: rest => do
    let value ← settings.lookUp name
    let others ← settings.select rest
    return (value.map fun value => (name, value)).toList ++ others

end Settings

end AccountRelay
