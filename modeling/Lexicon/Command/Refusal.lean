/-!
# Refusals

A command that cannot answer refuses with a message for the user and a code for the shell.
-/

namespace Lexicon

structure Refusal where
  message : String
  exitCode : Int
  deriving DecidableEq

namespace Refusal

/-- The command failed. -/
def failure (message : String) : Refusal := ⟨message, 1⟩

/-- The command was asked for something that does not exist. -/
def usage (message : String) : Refusal := ⟨message, 2⟩

end Refusal

end Lexicon
