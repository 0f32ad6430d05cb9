import Lexicon.Command.Answer
import Lexicon.LineEnd
import Lexicon.Reference
import Lexicon.Storage.Disk

/-!
# Invocations

A command with its operands and the switches that hold for every command. Only the reference changes
anything: it may be saved under a path instead of being printed.
-/

namespace Lexicon

inductive Command where
  | classify (spellings : List String)
  | text (kinds : List String)
  | operators (kind : String)
  | metadata (name : String)
  | list (set : KindSet)
  | check
  | reference (out : Option String) (headingLevel : Nat)
  deriving DecidableEq

structure Invocation where
  command : Command
  format : OutputFormat := .text
  noSynonyms : Bool := false
  deriving DecidableEq

/-- What the shell gets from a run. -/
structure Outcome where
  exitCode : Int
  stdout : String
  stderr : String
  deriving DecidableEq

namespace Outcome

/-- An answer goes to the output, a refusal to the error output. -/
def ofAnswer : Except Refusal String → Outcome
  | .ok output => ⟨0, LineEnd.printed output, ""⟩
  | .error refusal => ⟨refusal.exitCode, "", LineEnd.printed refusal.message⟩

end Outcome

namespace Invocation

/-- The settings for which the switches stand. -/
def settings (invocation : Invocation) : Settings :=
  (({} : Settings).withFormat invocation.format).withSynonyms !invocation.noSynonyms

variable {m : Type → Type} [Monad m]

/-- Prints the reference, or saves it and says where. -/
def reference (disk : Storage.Disk m) (settings : Settings) :
    Option String → m (Except Refusal String)
  | none => return .ok (Reference.render settings)
  | some out => do
    match ← disk.save (.ofText out) (Reference.render settings) with
    | .ok () => return .ok ("Wrote reference to " ++ out)
    | .error error => return .error (.failure error.message)

/-- The answer to an invocation. -/
def answer (disk : Storage.Disk m) (invocation : Invocation) : m (Except Refusal String) :=
  match invocation.command with
  | .classify spellings => return .ok (Answer.classify invocation.settings spellings)
  | .text kinds => return Answer.text invocation.settings kinds
  | .operators kind => return Answer.operators invocation.settings kind
  | .metadata name => return Answer.method invocation.settings name
  | .list set => return .ok (Answer.list invocation.settings set)
  | .check => return Answer.check invocation.settings
  | .reference out headingLevel =>
    reference disk (invocation.settings.withHeadingLevel headingLevel) out

/-- Runs an invocation. -/
def run (disk : Storage.Disk m) (invocation : Invocation) : m Outcome :=
  return Outcome.ofAnswer (← invocation.answer disk)

end Invocation

end Lexicon
