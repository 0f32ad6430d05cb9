import Lexicon.CommandLine.ArgumentError
import Lexicon.Kind.Enumeration

/-!
# Arguments

What a single argument looks like, and which options are known in which part of a command line:
before the name of the command, or after it.
-/

namespace Lexicon.CommandLine

/-- The form of one argument. -/
inductive Argument where
  /-- Two hyphens, after which every argument is an operand. -/
  | separator
  /-- Two hyphens and a name, with the text after an equals sign if there is one. -/
  | long (name : String) (value : Option String)
  /-- One hyphen and letters, of which the first is kept: it decides alone. -/
  | short (letter : Char)
  | plain (text : String)
  deriving DecidableEq

/-- A name and, if an equals sign follows, the text after it. -/
def splitValue (text : List Char) : String × Option String :=
  (String.ofList (text.takeWhile (· ≠ '=')),
    match text.dropWhile (· ≠ '=') with
    | [] => none
    | _ :: value => some (String.ofList value))

/-- The form of an argument. -/
def Argument.ofText (text : String) : Argument :=
  match text.toList with
  | ['-', '-'] => .separator
  | '-' :: '-' :: rest => .long (splitValue rest).1 (splitValue rest).2
  | '-' :: letter :: _ => .short letter
  | _ => .plain text

/-- The options that take no value. -/
inductive Switch where
  | noSynonyms | help | version
  deriving DecidableEq

/-- The options that take a value. -/
inductive Setting where
  | format | out | headingLevel
  deriving DecidableEq

/-- The names of the commands. -/
inductive CommandName where
  | classify | text | operators | metadata | list | check | reference
  deriving DecidableEq

/-- How many operands a command takes. -/
inductive Arity where
  | none | one | atLeastOne
  deriving DecidableEq

namespace CommandName

def ofText? : String → Option CommandName
  | "classify" => some .classify
  | "text" => some .text
  | "operators" => some .operators
  | "metadata" => some .metadata
  | "list" => some .list
  | "check" => some .check
  | "reference" => some .reference
  | _ => none

def arity : CommandName → Arity
  | classify | text => .atLeastOne
  | operators | metadata | list => .one
  | check | reference => .none

/-- The text stands for a command: it is the name of one, or the word that asks for help. -/
def isCommandWord (text : String) : Bool := text = "help" || (ofText? text).isSome

end CommandName

/-- The part of a command line: before the name of the command, or after that of a command. -/
inductive Part where
  | top
  | command (name : CommandName)
  deriving DecidableEq

namespace Part

/-- The switch of a long name. -/
def switch? : Part → String → Option Switch
  | _, "no-synonyms" => some .noSynonyms
  | _, "help" => some .help
  | .top, "version" => some .version
  | _, _ => none

/-- The switch of a letter. -/
def letterSwitch? : Part → Char → Option Switch
  | _, 'h' => some .help
  | .top, 'V' => some .version
  | _, _ => none

/-- The option of a long name that takes a value. -/
def setting? : Part → String → Option Setting
  | _, "format" => some .format
  | .command .reference, "out" => some .out
  | .command .reference, "heading-level" => some .headingLevel
  | _, _ => none

/-- There is room for one more operand after some. -/
def hasRoom : Part → Nat → Bool
  | .top, _ => false
  | .command name, count =>
    match name.arity with
    | .none => false
    | .one => count = 0
    | .atLeastOne => true

/-- The operand may stand here. -/
def admits : Part → String → Bool
  | .command .list, operand => (KindSet.ofName? operand).isSome
  | _, _ => true

end Part

end Lexicon.CommandLine
