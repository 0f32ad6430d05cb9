import Lexicon.CommandLine.Parse

/-!
# The program

Reads the command line, runs the invocation on the disk of the system and passes on what it prints.
-/

namespace Lexicon.Program

open Storage

/-- What the system has reported. -/
def systemError : IO.Error → FileError
  | .noFileOrDirectory .. => .notFound
  | .alreadyExists .. => .alreadyExists
  | .inappropriateType _ code details | .invalidArgument _ code details
  | .permissionDenied _ code details | .resourceExhausted _ code details =>
    .other (details ++ " (os error " ++ toString code ++ ")")
  | error => .other (toString error)

/-- Takes a step on the disk of the system. -/
def attempt (step : IO Unit) : IO (Except FileError Unit) := do
  return (← step.toBaseIO).mapError systemError

/-- The disk of the system. -/
def disk : Disk IO where
  makeDirectory path := attempt (IO.FS.createDir path.text)
  isDirectory path := do
    match ← (IO.FS.realPath path.text).toBaseIO with
    | .ok found => found.isDir
    | .error _ => return false
  writeFile path text := attempt (IO.FS.writeFile path.text text)

/-- How the program is called. -/
def usage : String :=
  "Usage: sharpkind [--format text|json] [--no-synonyms] COMMAND\n\n" ++
  "Commands:\n" ++
  "  classify SPELLING...  what spellings are\n" ++
  "  text KIND...          the fixed text of kinds\n" ++
  "  operators KIND        the nodes that a token reduces to\n" ++
  "  metadata NAME         the operator of a method name\n" ++
  "  list SET              the kinds of a set\n" ++
  "  check                 whether the vocabulary is in order\n" ++
  "  reference [--out PATH] [--heading-level LEVEL]\n" ++
  "                        the vocabulary as a Markdown page\n"

/-- What is printed for arguments that are no invocation. -/
def rejection (error : CommandLine.ArgumentError) : Outcome :=
  match error with
  | .helpRequested => ⟨error.exitCode, usage, ""⟩
  | .versionRequested => ⟨error.exitCode, CommandLine.versionLine, ""⟩
  | _ => ⟨error.exitCode, "", usage⟩

/-- Passes on what an outcome holds. -/
def deliver (outcome : Outcome) : IO UInt32 := do
  IO.print outcome.stdout
  IO.eprint outcome.stderr
  return UInt32.ofNat outcome.exitCode.toNat

end Lexicon.Program

def main (arguments : List String) : IO UInt32 := do
  match Lexicon.CommandLine.parse arguments with
  | .error error => Lexicon.Program.deliver (Lexicon.Program.rejection error)
  | .ok invocation => Lexicon.Program.deliver (← invocation.run Lexicon.Program.disk)
