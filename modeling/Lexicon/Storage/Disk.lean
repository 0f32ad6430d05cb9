import Lexicon.Storage.FileError
import Lexicon.Storage.Path

/-!
# Saving a document

A document is saved by making the directories above its path and writing the file. The single steps
are parameters, so the same order of steps runs on a real disk and on a tree of files that is a
value.
-/

namespace Lexicon.Storage

/-- The steps of which saving a document consists. -/
structure Disk (m : Type → Type) where
  /-- Makes one directory, in a directory that is there. -/
  makeDirectory : Path → m (Except FileError Unit)
  /-- Whether a path leads to a directory. -/
  isDirectory : Path → m Bool
  /-- Makes a file of that text, or gives that text to a file that is there. -/
  writeFile : Path → String → m (Except FileError Unit)

/-- Why a document was not saved. -/
inductive SaveError where
  | creating (directory : Path) (cause : FileError)
  | writing (path : Path) (cause : FileError)
  deriving DecidableEq

def SaveError.message : SaveError → String
  | creating directory cause => "Error creating " ++ directory.text ++ ": " ++ cause.message
  | writing path cause => "Error writing " ++ path.text ++ ": " ++ cause.message

namespace Disk

variable {m : Type → Type} [Monad m]

/-- An attempt to make a directory that is there already counts as success. -/
def tolerate (disk : Disk m) (directory : Path) : Except FileError Unit → m (Except FileError Unit)
  | .ok () => return .ok ()
  | .error cause => do
    if ← disk.isDirectory directory then return .ok () else return .error cause

/-- Makes the first directory and, as far as they are missing, those above it. -/
def makeDirectories (disk : Disk m) : List Path → m (Except FileError Unit)
  | [] => return .ok ()
  | directory :: above => do
    match ← disk.makeDirectory directory with
    | .error .notFound =>
      match ← disk.makeDirectories above with
      | .error cause => return .error cause
      | .ok () => disk.tolerate directory (← disk.makeDirectory directory)
    | result => disk.tolerate directory result

/-- Makes the directories above a path. -/
def prepare (disk : Disk m) (path : Path) : m (Except SaveError Unit) := do
  match path.parents with
  | [] => return .ok ()
  | directory :: above =>
    return (← disk.makeDirectories (directory :: above)).mapError (.creating directory)

/-- Saves a text under a path. -/
def save (disk : Disk m) (path : Path) (text : String) : m (Except SaveError Unit) := do
  match ← disk.prepare path with
  | .error error => return .error error
  | .ok () => return (← disk.writeFile path text).mapError (.writing path)

end Disk

end Lexicon.Storage
