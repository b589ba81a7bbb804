import SearchFilter.CommandLine.Run

/-!
# The program

Arguments, files and streams. Results go to standard output, and reports to
standard error: warnings always, further reports when they are asked for.

The environment is left out. A run takes its settings file from the arguments alone,
and does not look for one in `QFILTER_CONFIG`; which reports are shown follows from
the arguments as well, and from no log filter in a variable. Also left out is the
report of how many definitions a settings file holds, which a verbose run would begin
with. Nothing that is printed as a result depends on it.
-/

namespace SearchFilter
namespace Program

/-- The content of a text file, if it can be read. -/
def readFile? (path : Text) : IO (Option Text) := do
  try
    return some (← IO.FS.readFile (String.ofList path)).toList
  catch _ =>
    return none

/-- Whether an event is reported. -/
def isReported (verbose : Bool) (event : Event) : Bool :=
  match event.severity with
  | .warning => true
  | .info => verbose
  | .debug => false

/-- Report a failure and give its exit code. -/
def fail (failure : Failure) : IO UInt32 := do
  IO.print failure.output
  if failure.message ≠ "" then
    IO.eprintln failure.message
  return failure.exitCode.toUInt32

/-- Run the program. -/
def run (arguments : List Text) : IO UInt32 := do
  match Invocation.ofArguments arguments with
  | .error cause => fail (.usage cause)
  | .ok invocation =>
      let content ←
        match invocation.settings with
        | none => pure none
        | some path => readFile? path
      let result := invocation.run content
      for event in result.log do
        if isReported invocation.verbose event then
          IO.eprintln event.line
      match result.value with
      | .error failure => fail failure
      | .ok output =>
          IO.println (String.ofList output)
          return 0

end Program
end SearchFilter

/-- Entry point. -/
def main (arguments : List String) : IO UInt32 :=
  SearchFilter.Program.run (arguments.map String.toList)
