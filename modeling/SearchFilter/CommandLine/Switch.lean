import SearchFilter.Comparison

/-!
# Switches

The options of the command line, by what they ask for. An option that takes a
value takes it from the same argument or from the next one.
-/

namespace SearchFilter

/-- The name of a command. -/
inductive Verb
  | parse
  | normalize
  | add
  | remove
  deriving DecidableEq, Repr

namespace Verb

/-- The word for a command. -/
def name : Verb → Text
  | .parse => "parse".toList
  | .normalize => "normalize".toList
  | .add => "add".toList
  | .remove => "remove".toList

/-- The command of a word. -/
def ofName? (word : Text) : Option Verb :=
  [Verb.parse, .normalize, .add, .remove].find? fun verb => verb.name == word

end Verb

/-- An option. -/
inductive Switch
  | settings
  | verbose
  | help
  | version
  | attr
  | value
  | comparison
  | replace
  | pretty
  deriving DecidableEq, Repr

namespace Switch

/-- The name after two dashes. -/
def long : Switch → Text
  | .settings => "config".toList
  | .verbose => "verbose".toList
  | .help => "help".toList
  | .version => "version".toList
  | .attr => "attr".toList
  | .value => "value".toList
  | .comparison => "operator".toList
  | .replace => "replace".toList
  | .pretty => "pretty".toList

/-- The letter after one dash. -/
def short? : Switch → Option Char
  | .settings => some 'c'
  | .verbose => some 'v'
  | .help => some 'h'
  | .version => some 'V'
  | .attr => some 'a'
  | .comparison => some 'o'
  | .value | .replace | .pretty => none

/-- Whether the option takes a value. -/
def takesValue : Switch → Bool
  | .settings | .attr | .value | .comparison => true
  | .verbose | .help | .version | .replace | .pretty => false

/-- Whether the value may begin with a dash when it is an argument of its own. -/
def takesDashes : Switch → Bool
  | .value => true
  | _ => false

/-- The options in front of the command, and those after each command. -/
def known : Option Verb → List Switch
  | none => [.settings, .verbose, .help, .version]
  | some .parse => [.settings, .verbose, .help, .pretty]
  | some .normalize => [.settings, .verbose, .help]
  | some .add => [.settings, .verbose, .help, .attr, .value, .comparison, .replace]
  | some .remove => [.settings, .verbose, .help, .attr, .value, .comparison]

/-- The option with a long name. -/
def ofLong? (verb : Option Verb) (name : Text) : Option Switch :=
  (known verb).find? fun switch => switch.long == name

/-- The option with a letter. -/
def ofShort? (verb : Option Verb) (letter : Char) : Option Switch :=
  (known verb).find? fun switch => switch.short? == some letter

end Switch
end SearchFilter
