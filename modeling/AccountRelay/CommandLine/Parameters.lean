import AccountRelay.Input

/-! # Parameters of a command

A command takes parameters, most of them by name: `--name value` or `--name=value`, or just `--name`
for a switch. A value is taken when the next parameter is named or the words are at their end, so an
unknown name is told of before a value that is wrong. Behind `--` no word is a name.
-/

namespace AccountRelay.CommandLine

/-- Why words are no command. -/
inductive UsageFault
  /-- Help was asked for. -/
  | help
  /-- The version was asked for. -/
  | version
  /-- There is no command where one is needed. -/
  | missingCommand
  | unknownCommand
  | unknownArgument
  | missingArgument
  /-- A parameter has no value, or an empty one that it does not take. -/
  | noValue
  /-- A switch has a value. -/
  | needlessValue
  /-- A parameter is given twice. -/
  | repeated
  /-- A value is no number. -/
  | badNumber
deriving DecidableEq

/-- The name under which a fault is reported. -/
def UsageFault.name : UsageFault → String
  | .help => "DisplayHelp"
  | .version => "DisplayVersion"
  | .missingCommand => "DisplayHelpOnMissingArgumentOrSubcommand"
  | .unknownCommand => "InvalidSubcommand"
  | .unknownArgument => "UnknownArgument"
  | .missingArgument => "MissingRequiredArgument"
  | .noValue => "InvalidValue"
  | .needlessValue => "TooManyValues"
  | .repeated => "ArgumentConflict"
  | .badNumber => "ValueValidation"

/-- What a parameter takes. -/
inductive ParameterKind
  | switch
  | text
  /-- A text that is not empty. -/
  | path
  /-- A number of 64 bits. -/
  | count
deriving DecidableEq

/-- A parameter of a command. -/
structure Parameter where
  name : String
  kind : ParameterKind := .text
  /-- The setting that stands in when the parameter is not given. -/
  setting : Option String := none
  isRequired : Bool := false
deriving DecidableEq

/-- The parameters that a command takes. -/
structure Parameters where
  named : List Parameter
  /-- Those that are given by their place. -/
  placed : List Parameter := []
deriving DecidableEq

/-- Values of parameters by name. -/
abbrev Arguments := List (String × String)

/-- Whether a parameter takes a value. -/
def Parameter.check (parameter : Parameter) (value : String) : Except UsageFault Unit :=
  match parameter.kind with
  | .switch | .text => .ok ()
  | .path => if value.isEmpty then .error .noValue else .ok ()
  | .count => if (Input.counter? value.toList).isSome then .ok () else .error .badNumber

/-- The arguments with one more. -/
def Arguments.add (arguments : Arguments) (parameter : Parameter) (value : String) :
    Except UsageFault Arguments := do
  if (arguments.lookup parameter.name).isSome then .error .repeated
  parameter.check value
  return arguments ++ [(parameter.name, value)]

/-- What has been read of the words: the arguments that are settled, and the parameter that is
still to be settled with its value, if it has got one. -/
structure Scan where
  settled : Arguments := []
  pending : Option (Parameter × Option String) := none
deriving DecidableEq

namespace Scan

/-- Settles the parameter that is pending. -/
def settle (scan : Scan) : Except UsageFault Arguments :=
  match scan.pending with
  | none => .ok scan.settled
  | some (_, none) => .error .noValue
  | some (parameter, some value) => scan.settled.add parameter value

/-- Goes on with a parameter that is pending. -/
def expect (scan : Scan) (parameter : Parameter) (value : Option String) :
    Except UsageFault Scan := do
  let settled ← scan.settle
  return { settled, pending := some (parameter, value) }

/-- Settles one more parameter at once. -/
def give (scan : Scan) (parameter : Parameter) (value : String) : Except UsageFault Scan := do
  let settled ← scan.settle
  let settled ← settled.add parameter value
  return { settled }

/-- Ends with a request for help. -/
def help (scan : Scan) : Except UsageFault Scan := do
  let _ ← scan.settle
  .error .help

end Scan

/-- What a word looks like. -/
inductive Word
  | separator
  /-- A name behind two dashes, and what follows an equals sign. -/
  | long (name : String) (value : Option String)
  /-- Letters behind one dash, the first one told apart. -/
  | short (first : Char)
  | plain (text : String)
deriving DecidableEq

/-- What a word looks like. -/
def Word.of (word : String) : Word :=
  match word.toList with
  | ['-', '-'] => .separator
  | '-' :: '-' :: rest =>
    let value := match rest.dropWhile (· ≠ '=') with
      | _ :: value => some (String.ofList value)
      | [] => none
    .long (String.ofList (rest.takeWhile (· ≠ '='))) value
  | '-' :: first :: _ => .short first
  | _ => .plain word

namespace Parameters

/-- Takes words by their places. -/
def scanPlaced (placed : List Parameter) (scan : Scan) : List String → Except UsageFault Scan
  | [] => .ok scan
  | word :: rest =>
    match placed with
    | [] => .error .unknownArgument
    | parameter :: placed => do
      let scan ← scan.expect parameter (some word)
      scanPlaced placed scan rest

/-- Takes a name and its value. -/
def scanNamed (parameters : Parameters) (scan : Scan) (name : String) (value : Option String) :
    Except UsageFault Scan :=
  match name, value with
  | "help", some _ => .error .needlessValue
  | "help", none => scan.help
  | name, value =>
    match parameters.named.find? (·.name = name) with
    | none => .error .unknownArgument
    | some parameter =>
      match parameter.kind, value with
      | .switch, some _ => .error .needlessValue
      | .switch, none => scan.give parameter ""
      | _, some value => scan.give parameter value
      | _, none => scan.expect parameter none

/-- Takes all words. -/
def scan (parameters : Parameters) (placed : List Parameter) (scan : Scan) :
    List String → Except UsageFault Scan
  | [] => .ok scan
  | word :: rest => do
    match Word.of word with
    | .separator => scanPlaced placed scan rest
    | .long name value =>
      let next ← parameters.scanNamed scan name value
      parameters.scan placed next rest
    | .short 'h' => scan.help
    | .short _ => .error .unknownArgument
    | .plain text =>
      match scan.pending, placed with
      | some (parameter, none), placed =>
        parameters.scan placed { scan with pending := some (parameter, some text) } rest
      | _, [] => .error .unknownArgument
      | _, parameter :: placed =>
        let next ← scan.expect parameter (some text)
        parameters.scan placed next rest

/-- The arguments with the settings that stand in for parameters that are not given. -/
def withSettings (settings : List (String × String)) :
    List Parameter → Arguments → Except UsageFault Arguments
  | [], arguments => .ok arguments
  | parameter :: rest, arguments => do
    let setting := parameter.setting.bind fun name => settings.lookup name
    match arguments.lookup parameter.name, setting with
    | none, some value =>
      let arguments ← arguments.add parameter value
      withSettings settings rest arguments
    | _, _ => withSettings settings rest arguments

/-- The arguments in words. -/
def read (parameters : Parameters) (settings : List (String × String)) (words : List String) :
    Except UsageFault Arguments := do
  let scan ← parameters.scan parameters.placed {} words
  let given ← scan.settle
  let arguments ← withSettings settings parameters.named given
  let required := (parameters.named ++ parameters.placed).filter (·.isRequired)
  if required.all fun parameter => (arguments.lookup parameter.name).isSome then return arguments
  else .error .missingArgument

end Parameters

end AccountRelay.CommandLine
