/-!
# Argument errors

Why a list of arguments is no invocation. A request for help or for the version is among the
reasons, though it is not a mistake.
-/

namespace Lexicon.CommandLine

inductive ArgumentError where
  | helpRequested
  | versionRequested
  /-- There are no arguments at all. -/
  | nothingGiven
  /-- There are options, but no command. -/
  | missingCommand
  | unknownCommand
  /-- An option that is not known here, or an operand too many. -/
  | unknownArgument
  /-- The same option twice, both before or both after the name of the command. -/
  | repeatedOption
  /-- An option without its value, or with a value that is not among those it may have. -/
  | invalidValue
  /-- A value that is not the number it should be. -/
  | malformedNumber
  /-- A value for an option that has none. -/
  | surplusValue
  /-- A command without the operand it needs. -/
  | missingOperand
  deriving DecidableEq

/-- Code for the shell: only a request is no failure. -/
def ArgumentError.exitCode : ArgumentError → Int
  | helpRequested | versionRequested => 0
  | _ => 2

end Lexicon.CommandLine
