import Lexicon.Command.Invocation
import Lexicon.CommandLine.Argument
import Lexicon.Decimal

/-!
# Reading a command line

Arguments are read from left to right. A value or an operand is judged only when the next known
option, the next operand or the end has been read, so that an argument that is not known here is
reported before a bad value in front of it. The part after the name of the command is read to its
end before the last value in front of the name is judged.
-/

namespace Lexicon.CommandLine

/-- What one part of the command line has given so far. -/
structure Given where
  format : Option OutputFormat := none
  noSynonyms : Bool := false
  out : Option String := none
  headingLevel : Option Nat := none
  operands : List String := []
  deriving DecidableEq

/-- What has been read last and not been judged. -/
inductive Pending where
  | nothing
  /-- An option that still waits for its value. -/
  | awaited (setting : Setting)
  | value (setting : Setting) (text : String)
  | operand (text : String)
  deriving DecidableEq

/-- A part of the command line, read up to some argument. -/
structure Progress where
  given : Given := {}
  pending : Pending := .nothing
  deriving DecidableEq

namespace Given

/-- Nothing has been given. -/
def isBlank (given : Given) : Bool := given.format.isNone && !given.noSynonyms

/-- Largest heading level that can be asked for: a level is eight bytes wide. -/
def maxHeadingLevel : Nat := UInt64.size - 1

/-- Judges the value of an option. -/
def accept (given : Given) (setting : Setting) (text : String) : Except ArgumentError Given :=
  match setting with
  | .format =>
    if given.format.isSome then .error .repeatedOption
    else
      match OutputFormat.ofName? text with
      | some format => .ok { given with format := some format }
      | none => .error .invalidValue
  | .out =>
    if given.out.isSome then .error .repeatedOption
    else if text.isEmpty then .error .invalidValue
    else .ok { given with out := some text }
  | .headingLevel =>
    if given.headingLevel.isSome then .error .repeatedOption
    else
      match Decimal.read? maxHeadingLevel text with
      | some level => .ok { given with headingLevel := some level }
      | none => .error .malformedNumber

end Given

namespace Progress

/-- Number of operands that have been read. -/
def operandCount (progress : Progress) : Nat :=
  progress.given.operands.length +
    match progress.pending with
    | .operand _ => 1
    | _ => 0

/-- Judges what is pending. -/
def settle (part : Part) (progress : Progress) : Except ArgumentError Given :=
  match progress.pending with
  | .nothing => .ok progress.given
  | .awaited _ => .error .invalidValue
  | .value setting text => progress.given.accept setting text
  | .operand text =>
    if part.admits text then
      .ok { progress.given with operands := progress.given.operands ++ [text] }
    else
      .error .invalidValue

/-- Reads an operand. -/
def operand (part : Part) (progress : Progress) (text : String) : Except ArgumentError Progress :=
  if part.hasRoom progress.operandCount then
    (progress.settle part).map fun given => ⟨given, .operand text⟩
  else
    .error (match part with
      | .top => .unknownCommand
      | .command _ => .unknownArgument)

/-- Reads a switch. -/
def switch (part : Part) (progress : Progress) (switch : Switch) :
    Except ArgumentError Progress := do
  let given ← progress.settle part
  match switch with
  | .help => .error .helpRequested
  | .version => .error .versionRequested
  | .noSynonyms =>
    if given.noSynonyms then .error .repeatedOption
    else .ok ⟨{ given with noSynonyms := true }, .nothing⟩

/-- Reads an option that takes a value, with its value if it has it at once. -/
def setting (part : Part) (progress : Progress) (setting : Setting) :
    Option String → Except ArgumentError Progress
  | none => (progress.settle part).map fun given => ⟨given, .awaited setting⟩
  | some text => do
    let given ← progress.settle part
    (given.accept setting text).map fun given => ⟨given, .nothing⟩

/-- Reads an argument in front of the separator. -/
def step (part : Part) (progress : Progress) : Argument → Except ArgumentError Progress
  | .separator => .ok progress
  | .long name value =>
    match part.setting? name, part.switch? name, value with
    | some setting, _, value => progress.setting part setting value
    | none, some switch, none => progress.switch part switch
    | none, some _, some _ => .error .surplusValue
    | none, none, _ => .error .unknownArgument
  | .short letter =>
    match part.letterSwitch? letter with
    | some switch => progress.switch part switch
    | none => .error .unknownArgument
  | .plain text =>
    match progress.pending with
    | .awaited setting => .ok ⟨progress.given, .value setting text⟩
    | _ => progress.operand part text

/-- Reads what follows the separator: operands only. -/
def operands (part : Part) : Progress → List String → Except ArgumentError Progress
  | progress, [] => .ok progress
  | progress, text :: rest => do operands part (← progress.operand part text) rest

end Progress

/-! ### After the name of the command -/

/-- Reads the arguments of a command. -/
def readArguments (name : CommandName) : Progress → List String → Except ArgumentError Progress
  | progress, [] => .ok progress
  | progress, text :: rest =>
    match Argument.ofText text with
    | .separator => progress.operands (.command name) rest
    | argument => do readArguments name (← progress.step (.command name) argument) rest

/-- Reads the arguments of a command, of which none may be missing. -/
def readCommand (name : CommandName) (arguments : List String) : Except ArgumentError Given := do
  let progress ← readArguments name {} arguments
  let given ← progress.settle (.command name)
  if name.arity ≠ .none ∧ given.operands = [] then .error .missingOperand else .ok given

/-! ### Before the name of the command -/

/-- How the part before the name of the command ends. -/
inductive Lead where
  /-- At the end of the command line. -/
  | alone
  | command (name : CommandName) (arguments : List String)
  /-- At the word that asks for help on a command. -/
  | help (topics : List String)
  deriving DecidableEq

/-- The command that an argument names, unless it is the value of an option. -/
def lead? (progress : Progress) (text : String) (rest : List String) : Option Lead :=
  match progress.pending with
  | .awaited _ => none
  | _ => if text = "help" then some (.help rest)
    else (CommandName.ofText? text).map fun name => .command name rest

/-- Reads what follows the separator when no command stands in front of it. There the name of a
command is out of place, and any other text is the name of none. -/
def readNoCommand (progress : Progress) : List String → Except ArgumentError (Progress × Lead)
  | [] => .ok (progress, .alone)
  | text :: _ =>
    .error (if CommandName.isCommandWord text then .unknownArgument else .unknownCommand)

/-- Reads up to the name of the command. -/
def readLead : Progress → List String → Except ArgumentError (Progress × Lead)
  | progress, [] => .ok (progress, .alone)
  | progress, text :: rest =>
    match lead? progress text rest with
    | some lead => .ok (progress, lead)
    | none =>
      match Argument.ofText text with
      | .separator => readNoCommand progress rest
      | argument => do readLead (← progress.step .top argument) rest

/-- The answer to a request for help: there is help on each command, and none has commands of its
own. -/
def help : List String → ArgumentError
  | [] => .helpRequested
  | [topic] => if CommandName.isCommandWord topic then .helpRequested else .unknownCommand
  | _ => .unknownCommand

/-! ### The whole command line -/

/-- The command of a name with what has been given for it. -/
def command (name : CommandName) (given : Given) : Except ArgumentError Command :=
  match name, given.operands with
  | .classify, spellings => .ok (.classify spellings)
  | .text, kinds => .ok (.text kinds)
  | .check, _ => .ok .check
  | .reference, _ => .ok (.reference given.out (given.headingLevel.getD 1))
  | .operators, kind :: _ => .ok (.operators kind)
  | .metadata, name :: _ => .ok (.metadata name)
  | .list, set :: _ =>
    match KindSet.ofName? set with
    | some set => .ok (.list set)
    | none => .error .invalidValue
  | _, [] => .error .missingOperand

/-- The invocation for which a command line stands. What is given after the name of the command
counts before what is given in front of it. -/
def parse (arguments : List String) : Except ArgumentError Invocation := do
  let (progress, lead) ← readLead {} arguments
  match lead with
  | .help topics => .error (help topics)
  | .alone =>
    let given ← progress.settle .top
    .error (if given.isBlank then .nothingGiven else .missingCommand)
  | .command name arguments =>
    let inner ← readCommand name arguments
    let outer ← progress.settle .top
    let command ← command name inner
    return {
      command
      format := (inner.format.or outer.format).getD .text
      noSynonyms := inner.noSynonyms || outer.noSynonyms }

/-- What is printed when the version is asked for. -/
def versionLine : String := "sharpkind " ++ version ++ "\n"

end Lexicon.CommandLine
