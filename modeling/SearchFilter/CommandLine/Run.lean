import SearchFilter.CommandLine.Arguments
import SearchFilter.Settings.Yaml

/-!
# Runs

A run reads its arguments, loads the settings file if one is named, and carries
out the command. Each way to fail has its exit code.

The faults of the arguments are told apart as far as their exit codes and their
order go. Their wording is short, and so is the help text: both leave out the
descriptions of the options, the suggestions for a misspelled word and the usage
line of the command at hand.
-/

namespace SearchFilter

/-- Why a run prints no result. -/
inductive Failure
  /-- The arguments are no command to run. -/
  | usage (cause : UsageError)
  /-- The settings file cannot be read or makes no sense. -/
  | settings
  /-- The command fails. -/
  | command (cause : CommandError)
  deriving DecidableEq, Repr

namespace Failure

/-- The exit code. To ask for help or the version is no fault. -/
def exitCode : Failure → Nat
  | .usage .help | .usage .version => 0
  | .usage _ => 2
  | .settings | .command _ => 1

/-- What the run prints all the same. -/
def output : Failure → String
  | .usage .version => "qfilter 0.1.0\n"
  | .usage .help =>
      "Usage: qfilter [-c FILE] [-v] COMMAND\n\n" ++
        "Commands:\n" ++
        "  parse [--pretty] EXPRESSION\n" ++
        "  normalize EXPRESSION\n" ++
        "  add -a ATTR --value VALUE [-o OPERATOR] [--replace] [EXPRESSION]\n" ++
        "  remove -a ATTR --value VALUE [-o OPERATOR] EXPRESSION\n"
  | _ => ""

/-- What the user is told. -/
def message : Failure → String
  | .usage .help | .usage .version => ""
  | .usage .nothing | .usage .missingCommand => "error: a command is needed; see --help"
  | .usage .unknownCommand => "error: unknown command; see --help"
  | .usage .unknownArgument => "error: unexpected argument; see --help"
  | .usage .missingArgument => "error: required arguments are missing; see --help"
  | .usage .repeated => "error: an option is given more than once"
  | .usage .unknownComparison => "error: invalid comparison operator"
  | .usage .missingValue => "error: an option needs a value"
  | .usage .surplusValue => "error: an option takes no value"
  | .settings => "Error: CLI: Failed to load attribute definitions"
  | .command cause => "Error: " ++ cause.message

end Failure

namespace Invocation

/-- The settings of a run, given the content of the file it names, if that can be
read. -/
def loadSettings (content : Option Text) (invocation : Invocation) : Option Settings :=
  match invocation.settings with
  | none => some Settings.default
  | some _ => content.bind Settings.ofText?

/-- Carry out a run, given the content of the settings file it names, if that can be
read. -/
def run (content : Option Text) (invocation : Invocation) : Logged (Except Failure Text) :=
  match invocation.loadSettings content with
  | none => pure (.error .settings)
  | some settings => do
      match ← invocation.command.run settings with
      | .ok output => return .ok output
      | .error cause => return .error (.command cause)

end Invocation
end SearchFilter
