/-!
# Paths

A path is a text of pieces between slashes. Empty pieces and single dots lead nowhere, except that a
path may start with a dot. The directories above a path are the texts that are left when its last
pieces are taken away.
-/

namespace Lexicon.Storage

/-- The pieces of a path, between its slashes. -/
structure Path where
  pieces : List String
  deriving DecidableEq

namespace Path

/-- Cuts a text at its slashes. -/
def ofText (text : String) : Path := ⟨(text.toList.splitOn '/').map String.ofList⟩

def text (path : Path) : String := "/".intercalate path.pieces

/-- A piece that names no step of its own, given the pieces before it, last one first. -/
def isIdle (piece : String) (before : List String) : Bool :=
  piece.isEmpty || (piece = "." && !before.isEmpty)

/-- The path of pieces listed backwards and all paths above it, the longest first; none ends in a
piece that leads nowhere. -/
def upward : List String → List Path
  | [] => []
  | piece :: before =>
    if isIdle piece before then upward before
    else ⟨(piece :: before).reverse⟩ :: upward before

/-- The directories above a path, the nearest first. -/
def parents (path : Path) : List Path := (upward path.pieces.reverse).tail

/-- The path itself, without pieces at its end that lead nowhere, and the directories above it. -/
def upTo (path : Path) : List Path := upward path.pieces.reverse

end Path

end Lexicon.Storage
