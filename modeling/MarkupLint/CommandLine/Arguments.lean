import MarkupLint.CommandLine.Switch
import MarkupLint.Text.Search

namespace MarkupLint

/-!
# Reading the command line

Arguments are read from left to right.  A value that stands in an argument of its
own is only looked at when the next parameter begins, so an argument that is not
understood at all is reported before a wrong value to its left.
-/

/-- What a run of the linter is asked to do. -/
structure CheckOptions where
  path : String := "."
  format : OutputFormat := .text
  rules : Option String := none
  groups : List RuleGroup := []
  exclude : List String := []
  deriving Repr, DecidableEq

/-- A command with its options. -/
inductive Command where
  | check (options : CheckOptions)
  | listRules
  | init (force : Bool)
  deriving Repr, DecidableEq

/-- A command line that was understood. -/
structure Invocation where
  verbose : Bool
  config : Option String
  command : Command
  deriving Repr, DecidableEq

/-- Why reading a command line stops early. -/
inductive Interruption where
  | usage (error : UsageError)
  | help
  | helpForNothing
  | version
  deriving Repr, DecidableEq

/-- The parameters of one scope: those with a value, and the one being read. -/
structure Reading where
  given : List (Parameter × String) := []
  pending : Option (Parameter × Option String) := none
  deriving Repr, DecidableEq

namespace Reading

/-- Whether a parameter has a value. -/
def has (reading : Reading) (parameter : Parameter) : Bool :=
  reading.given.any (·.1 == parameter)

/-- The values of a parameter in order. -/
def values (reading : Reading) (parameter : Parameter) : List String :=
  (reading.given.filter (·.1 == parameter)).map (·.2)

/-- The value of a parameter that is given at most once. -/
def value? (reading : Reading) (parameter : Parameter) : Option String :=
  (reading.values parameter).head?

/-- Check the value of a parameter. -/
def checkValue (parameter : Parameter) (value : String) : Except UsageError Unit :=
  match parameter with
  | .path => if value.isEmpty then .error (.valueRequired parameter) else .ok ()
  | .switch .config => if value.isEmpty then .error (.valueRequired parameter) else .ok ()
  | .switch .format =>
      if (OutputFormat.ofName? value).isSome then
        .ok ()
      else if value.isEmpty then
        .error (.valueRequired parameter)
      else
        .error (.invalidValue parameter value)
  | .switch .group =>
      if (RuleGroup.ofNameIgnoringCase? value).isSome then
        .ok ()
      else
        .error (.unknownGroup value)
  | _ => .ok ()

/-- Give a parameter a value. -/
def give (reading : Reading) (parameter : Parameter) (value : String) :
    Except UsageError Reading :=
  if reading.has parameter && !parameter.isRepeatable then
    .error (.usedMultipleTimes parameter)
  else do
    checkValue parameter value
    return { reading with given := reading.given ++ [(parameter, value)] }

/-- Finish the parameter that is being read. -/
def settle (reading : Reading) : Except UsageError Reading :=
  match reading.pending with
  | none => .ok reading
  | some (parameter, none) => .error (.valueRequired parameter)
  | some (parameter, some value) => { reading with pending := none }.give parameter value

/-- Whether the next argument may be the value of a switch. -/
def awaitsValue (reading : Reading) : Bool :=
  match reading.pending with
  | some (_, none) => true
  | _ => false

/-- Whether the path was given, be it finished or not. -/
def hasPath (reading : Reading) : Bool :=
  reading.has .path || (reading.pending.map (·.1)) == some .path

/-- Take an argument as the awaited value. -/
def takeValue (reading : Reading) (value : String) : Reading :=
  { reading with pending := reading.pending.map fun (parameter, _) => (parameter, some value) }

/-- Begin a switch, with its value if that is part of the same argument. -/
def beginSwitch (reading : Reading) (switch : Switch) (attached : Option String) :
    Except Interruption Reading := do
  match switch.valueName?, attached with
  | none, some value => .error (.usage (.unexpectedValue (.switch switch) value))
  | none, none =>
      let reading ← reading.settle.mapError .usage
      match switch with
      | .help => .error .help
      | .version => .error .version
      | switch => (reading.give (.switch switch) "").mapError .usage
  | some _, some value =>
      let reading ← reading.settle.mapError .usage
      (reading.give (.switch switch) value).mapError .usage
  | some _, none =>
      let reading ← reading.settle.mapError .usage
      return { reading with pending := some (.switch switch, none) }

/-- Read an argument that starts with two dashes, which are left out here. -/
def readLong (scope : Scope) (reading : Reading) (text : List Char) :
    Except Interruption Reading :=
  let name := String.ofList (text.takeWhile (· != '='))
  let attached :=
    match text.dropWhile (· != '=') with
    | _ :: value => some (String.ofList value)
    | [] => none
  match scope.switchNamed? name with
  | none => .error (.usage (.unexpectedArgument ("--" ++ name)))
  | some switch => reading.beginSwitch switch attached

/-- The value behind the letter of a switch, without an equals sign before it. -/
def attachedValue : List Char → String
  | '=' :: value => String.ofList value
  | value => String.ofList value

/-- Read the letters of an argument that starts with one dash. -/
def readLetters (scope : Scope) (reading : Reading) : List Char → Except Interruption Reading
  | [] => .ok reading
  | letter :: rest =>
      match scope.switchLettered? letter with
      | none => .error (.usage (.unexpectedArgument (String.ofList ['-', letter])))
      | some switch =>
          if switch.valueName?.isSome then
            reading.beginSwitch switch (if rest.isEmpty then none else some (attachedValue rest))
          else do
            readLetters scope (← reading.beginSwitch switch none) rest

/-- Read an argument that is no switch: the path, if one is still expected. -/
def readPlain (scope : Scope) (reading : Reading) (isTrailing : Bool) (argument : String) :
    Except Interruption Reading :=
  match scope with
  | .check =>
      if reading.hasPath then
        .error (.usage (.unexpectedArgument argument))
      else do
        let reading ← reading.settle.mapError .usage
        return { reading with pending := some (.path, some argument) }
  | .program =>
      if isTrailing && (Scope.ofCommandName? argument).isSome then
        .error (.usage (.unexpectedArgument argument))
      else
        .error (.usage (.unrecognizedCommand argument))
  | _ => .error (.usage (.unexpectedArgument argument))

end Reading

/-- What an argument looks like. -/
inductive ArgumentShape where
  | escape
  | long (text : List Char)
  | letters (text : List Char)
  | plain
  deriving Repr, DecidableEq

namespace ArgumentShape

/-- The shape of an argument; a single dash is nothing special. -/
def ofArgument (argument : String) : ArgumentShape :=
  match argument.toList with
  | ['-', '-'] => escape
  | '-' :: '-' :: text => long text
  | ['-'] => plain
  | '-' :: text => letters text
  | _ => plain

end ArgumentShape

/-- The name of the command that asks for help. -/
def helpName : String := "help"

/-- Read the arguments after `--`, none of which is a switch. -/
def readTrailing (scope : Scope) (reading : Reading) : List String → Except Interruption Reading
  | [] => reading.settle.mapError .usage
  | argument :: rest => do
      readTrailing scope (← reading.readPlain scope true argument) rest

/--
The help for a command: at most one name may follow, and nothing else is
understood.
-/
def helpFor : List String → Interruption
  | [] => .help
  | name :: rest =>
      if (Scope.ofCommandName? name).isSome || name == helpName then
        match rest with
        | [] => .help
        | other :: _ => .usage (.unrecognizedCommand other)
      else
        .usage (.unrecognizedCommand name)

/--
Read the arguments of a scope.  Before a command, its name ends the scope: the
result then holds the command and the arguments behind it.
-/
def readScope (scope : Scope) (reading : Reading) :
    List String → Except Interruption (Reading × Option (Scope × List String))
  | [] => do return (← reading.settle.mapError .usage, none)
  | argument :: rest =>
      let isFree := scope == .program && !reading.awaitsValue
      match (if isFree then Scope.ofCommandName? argument else none) with
      | some command => do
          return (← reading.settle.mapError .usage, some (command, rest))
      | none =>
          if isFree && argument == helpName then
            .error (helpFor rest)
          else
            match ArgumentShape.ofArgument argument with
            | .escape => do return (← readTrailing scope reading rest, none)
            | .long text => do readScope scope (← reading.readLong scope text) rest
            | .letters text => do readScope scope (← reading.readLetters scope text) rest
            | .plain => do
                if reading.awaitsValue then
                  readScope scope (reading.takeValue argument) rest
                else
                  readScope scope (← reading.readPlain scope false argument) rest

/-- The configuration of a scope, which the environment may give. -/
def configOf (environment : Option String) (reading : Reading) :
    Except Interruption (Option String) :=
  match reading.value? (.switch .config), environment with
  | some path, _ => .ok (some path)
  | none, some "" => .error (.usage (.valueRequired (.switch .config)))
  | none, _ => .ok none

/-- The command that the parameters of its scope describe. -/
def commandOf (scope : Scope) (reading : Reading) : Command :=
  match scope with
  | .listRules => .listRules
  | .init => .init (reading.has (.switch .force))
  | _ =>
      .check
        { path := (reading.value? .path).getD "."
          format := ((reading.value? (.switch .format)).bind OutputFormat.ofName?).getD .text
          rules := reading.value? (.switch .rules)
          groups := (reading.values (.switch .group)).filterMap RuleGroup.ofNameIgnoringCase?
          exclude := reading.values (.switch .exclude) }

/--
Read a whole command line.  The configuration given after the command wins over
the one before it, and both win over the environment.
-/
def readCommandLine (environment : Option String) (arguments : List String) :
    Except Interruption Invocation := do
  let (program, command) ← readScope .program {} arguments
  match command with
  | some (scope, rest) =>
      let (reading, _) ← readScope scope {} rest
      let inner ← configOf environment reading
      let outer ← configOf environment program
      return {
        verbose := program.has (.switch .verbose) || reading.has (.switch .verbose)
        config := (inner.or outer).or environment
        command := commandOf scope reading }
  | none =>
      let _ ← configOf environment program
      if program.given.isEmpty && environment.isNone then
        .error .helpForNothing
      else
        .error (.usage .missingCommand)

end MarkupLint
