import SearchFilter.CommandLine.Command
import SearchFilter.CommandLine.Switch

/-!
# Arguments

The arguments of a run are read from left to right into an `Invocation`. What an
option gathers is looked at when the next option or the expression begins, or at
the end. So an unknown argument is reported before a bad value in front of it,
and a fault of the command before a fault of what stands before the command.
-/

namespace SearchFilter

/-- Why the arguments are no command to run. -/
inductive UsageError
  /-- The user asks for help. -/
  | help
  /-- The user asks for the version. -/
  | version
  /-- There is nothing to go on. -/
  | nothing
  /-- There are options, but no command. -/
  | missingCommand
  /-- A word that is no command stands in its place. -/
  | unknownCommand
  /-- An argument fits nowhere. -/
  | unknownArgument
  /-- The command needs more arguments. -/
  | missingArgument
  /-- An option is given twice. -/
  | repeated
  /-- No comparison is called by that name. -/
  | unknownComparison
  /-- An option that takes a value is left without one. -/
  | missingValue
  /-- An option that takes no value is given one. -/
  | surplusValue
  deriving DecidableEq, Repr

/-- What the options and the expression have given so far. -/
structure Given where
  settings : Option Text := none
  verbose : Bool := false
  attr : Option Text := none
  value : Option Text := none
  comparison : Option Comparison := none
  replace : Bool := false
  pretty : Bool := false
  expression : Option Text := none
  deriving DecidableEq, Repr

namespace Given

/-- The value of an option that may be given once. -/
def once (present : Bool) (value : Option Text) : Except UsageError Text :=
  match value with
  | none => .error .missingValue
  | some value => if present then .error .repeated else .ok value

/-- Take in one option with its value. -/
def accept (given : Given) (switch : Switch) (value : Option Text) : Except UsageError Given := do
  match switch with
  | .help => throw .help
  | .version => throw .version
  | .verbose =>
      if given.verbose then throw .repeated
      return { given with verbose := true }
  | .replace =>
      if given.replace then throw .repeated
      return { given with replace := true }
  | .pretty =>
      if given.pretty then throw .repeated
      return { given with pretty := true }
  | .settings =>
      let path ← once given.settings.isSome value
      if path.isEmpty then throw .missingValue
      return { given with settings := some path }
  | .attr => return { given with attr := some (← once given.attr.isSome value) }
  | .value => return { given with value := some (← once given.value.isSome value) }
  | .comparison =>
      let name ← once given.comparison.isSome value
      match Comparison.ofText? name with
      | some comparison => return { given with comparison := some comparison }
      | none => throw .unknownComparison

/-- The target of an editing command. -/
def target (given : Given) : Except UsageError Target :=
  match given.attr, given.value with
  | some attr, some value => .ok ⟨attr, value, given.comparison⟩
  | _, _ => .error .missingArgument

/-- The expression of a command that needs one. -/
def needExpression (given : Given) : Except UsageError Text :=
  match given.expression with
  | some expression => .ok expression
  | none => .error .missingArgument

/-- The command of a verb, if it has all it needs. Only adding may start from nothing. -/
def command (given : Given) : Verb → Except UsageError Command
  | .parse => do return .parse (← given.needExpression) given.pretty
  | .normalize => do return .normalize (← given.needExpression)
  | .add => do return .add (← given.target) given.replace (given.expression.getD [])
  | .remove => do return .remove (← given.target) (← given.needExpression)

end Given

/-- What is gathered, but not looked at yet. -/
inductive Pending
  | none
  | option (switch : Switch) (value : Option Text)
  | expression (text : Text)
  deriving DecidableEq, Repr

/-- The form of an argument. -/
inductive Form
  /-- The mark after which no argument is an option. -/
  | mark
  /-- A long option, perhaps with a value after an equals sign. -/
  | long (name : Text) (attached : Option Text)
  /-- A dash with letters, each an option or the last one's value. -/
  | short (letters : Text)
  | plain
  deriving DecidableEq, Repr

namespace Form

/-- The form of an argument. A dash alone is plain. -/
def ofText : Text → Form
  | ['-', '-'] => .mark
  | '-' :: '-' :: rest =>
      let name := rest.takeWhile fun c => c != '='
      match rest.drop name.length with
      | [] => .long name none
      | _ :: attached => .long name (some attached)
  | '-' :: letter :: rest => .short (letter :: rest)
  | _ => .plain

end Form

/-- The state in which arguments are read. -/
structure Scan where
  given : Given := {}
  pending : Pending := .none
  /-- Whether the mark after which no argument is an option has come. -/
  marked : Bool := false
  deriving DecidableEq, Repr

namespace Scan

/-- Look at what is gathered. -/
def settle (scan : Scan) : Except UsageError Given :=
  match scan.pending with
  | .none => .ok scan.given
  | .option switch value => scan.given.accept switch value
  | .expression text => .ok { scan.given with expression := some text }

/-- The option that waits for the next argument. -/
def waiting? (scan : Scan) : Option Switch :=
  match scan.marked, scan.pending with
  | false, .option switch none => some switch
  | _, _ => none

/-- Begin to gather an option's value. -/
def gather (scan : Scan) (switch : Switch) : Except UsageError Scan := do
  return { scan with given := ← scan.settle, pending := .option switch none }

/-- Take in an option that is complete. -/
def complete (scan : Scan) (switch : Switch) (value : Option Text) : Except UsageError Scan := do
  return { scan with given := ← (← scan.settle).accept switch value, pending := .none }

/-- Read a long option. -/
def long
    (scan : Scan)
    (verb : Option Verb)
    (name : Text)
    (attached : Option Text) : Except UsageError Scan :=
  match Switch.ofLong? verb name with
  | none => .error .unknownArgument
  | some switch =>
      match switch.takesValue, attached with
      | true, some value => scan.complete switch (some value)
      | true, none => scan.gather switch
      | false, some _ => .error .surplusValue
      | false, none => scan.complete switch none

/-- Read the letters after one dash. A value may follow its letter at once or after an
equals sign. -/
def short (verb : Option Verb) : Text → Scan → Except UsageError Scan
  | [], scan => .ok scan
  | letter :: rest, scan =>
      match Switch.ofShort? verb letter with
      | none => .error .unknownArgument
      | some switch =>
          if switch.takesValue then
            match rest with
            | [] => scan.gather switch
            | '=' :: value => scan.complete switch (some value)
            | value => scan.complete switch (some value)
          else do
            short verb rest (← scan.complete switch none)

/-- Whether the expression is given. -/
def hasExpression (scan : Scan) : Bool :=
  match scan.pending with
  | .expression _ => true
  | _ => scan.given.expression.isSome

/-- Read an argument that is no option. In front of the command there is no place for
one; after it, it is the expression. -/
def plain (scan : Scan) (verb : Option Verb) (argument : Text) : Except UsageError Scan :=
  match verb with
  | none =>
      let isCommand := (Verb.ofName? argument).isSome || argument == "help".toList
      if scan.marked && isCommand then .error .unknownArgument else .error .unknownCommand
  | some _ =>
      if scan.hasExpression then .error .unknownArgument
      else do return { scan with given := ← scan.settle, pending := .expression argument }

/-- Read one argument. -/
def step (verb : Option Verb) (scan : Scan) (argument : Text) : Except UsageError Scan :=
  if scan.marked then
    scan.plain verb argument
  else
    let form := Form.ofText argument
    match scan.waiting? with
    | some switch =>
        if form = .plain || switch.takesDashes then
          .ok { scan with pending := .option switch (some argument) }
        else
          dashed form
    | none => if form = .plain then scan.plain verb argument else dashed form
where
  /-- Read an argument that begins with a dash. -/
  dashed : Form → Except UsageError Scan
    | .mark => .ok { scan with marked := true }
    | .long name attached => scan.long verb name attached
    | .short letters => short verb letters scan
    | .plain => scan.plain verb argument

end Scan

/-- A command with the options that hold for every command. -/
structure Invocation where
  /-- The settings file. -/
  settings : Option Text
  /-- Whether to report what happens. -/
  verbose : Bool
  /-- The command. -/
  command : Command
  deriving DecidableEq, Repr

namespace Invocation

/-- What comes of asking for help on some commands. Commands have none below them. -/
def helpOn : List Text → UsageError
  | [] => .help
  | [name] =>
      if (Verb.ofName? name).isSome || name == "help".toList then .help else .unknownCommand
  | _ => .unknownCommand

/-- Read what stands after the command. -/
def readAfter (verb : Verb) (arguments : List Text) : Except UsageError (Given × Command) := do
  let scan ← arguments.foldlM (Scan.step (some verb)) {}
  let given ← scan.settle
  return (given, ← given.command verb)

/-- Read arguments from the front. Options after the command go before those in front
of it. -/
def readFrom (scan : Scan) : List Text → Except UsageError Invocation
  | [] => do
      let given ← scan.settle
      if given.settings.isSome || given.verbose then throw .missingCommand
      throw .nothing
  | argument :: rest =>
      let free := !scan.marked && scan.waiting?.isNone
      if free && argument == "help".toList then
        .error (helpOn rest)
      else
        match if free then Verb.ofName? argument else none with
        | some verb => do
            let (inner, command) ← readAfter verb rest
            let outer ← scan.settle
            return {
              settings := inner.settings.or outer.settings
              verbose := inner.verbose || outer.verbose
              command }
        | none => do readFrom (← scan.step none argument) rest

/-- Read the arguments of a run. -/
def ofArguments (arguments : List Text) : Except UsageError Invocation :=
  readFrom {} arguments

end Invocation
end SearchFilter
