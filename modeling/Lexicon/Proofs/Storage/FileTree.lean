import Lexicon.Proofs.Failure
import Lexicon.Proofs.Storage.Path
import Lexicon.Storage.FileTree

/-!
# Walks and changes in a tree of files

A walk along ordinary names either fails or ends where the names say, and then every directory on
its way is there. A step that changes a tree changes what its own names lead to and nothing else.

## Main statements

* `FileTree.locate_eq_ok`: where a walk along an ordinary path ends.
* `FileTree.withDirectory_eq_ok`, `FileTree.withFile_eq_ok`: everything that a successful change
  does.
-/

namespace Lexicon.Storage.FileTree

variable {tree changed : FileTree} {path : Path} {names : List String} {node : Node}

/-! ## Nodes -/

@[simp] theorem find?_nil (tree : FileTree) : tree.find? [] = some .directory := rfl

theorem lookup_putNode (names : List String) (node : Node) (nodes : List (List String × Node))
    (other : List String) : (putNode names node nodes).lookup other =
      if other = names then some node else nodes.lookup other := by
  induction nodes with
  | nil => grind [putNode]
  | cons pair nodes ih => grind [putNode]

theorem find?_put (nonempty : names ≠ []) (tree : FileTree) (node : Node) (other : List String) :
    (tree.put names node).find? other = if other = names then some node else tree.find? other := by
  cases other with
  | nil => simp [nonempty.symm]
  | cons name rest => simp [find?, put, lookup_putNode]

/-! ## Walks -/

/-- Every row of names up to these leads to a directory. -/
def IsOpen (tree : FileTree) (names : List String) : Prop :=
  ∀ above, above <+: names → tree.find? above = some .directory

theorem isOpen_nil (tree : FileTree) : tree.IsOpen [] := by
  intro above front
  rw [List.prefix_nil.mp front, find?_nil]

theorem IsOpen.concat {here : List String} {name : String} (isOpen : tree.IsOpen here)
    (found : tree.find? (here ++ [name]) = some .directory) : tree.IsOpen (here ++ [name]) := by
  intro above front
  rcases List.prefix_concat_iff.mp front with rfl | front
  · exact found
  · exact isOpen above front

theorem enter_eq_ok {here there : List String} {piece : String} (noDot : piece ≠ ".")
    (noDots : piece ≠ "..") (entered : tree.enter here piece = .ok there) :
    there = here ++ [piece].filter (fun piece => !piece.isEmpty) ∧
      (tree.IsOpen here → tree.IsOpen there) := by
  rw [enter] at entered
  by_cases empty : piece = ""
  · rw [if_pos (by simp [empty])] at entered
    cases entered
    simp [empty]
  · rw [if_neg (by simp [empty, noDot]), if_neg noDots] at entered
    split at entered
    · cases entered
    · split at entered
      next => cases entered
      next found =>
        cases entered
        exact ⟨by simp [empty], fun isOpen => isOpen.concat found⟩
      next => cases entered

/-- A walk along ordinary pieces adds their names to the way, and all of the way is open. -/
theorem foldlM_enter_eq_ok {pieces here there : List String}
    (ordinary : ∀ piece ∈ pieces, piece ≠ "." ∧ piece ≠ "..") (isOpen : tree.IsOpen here)
    (walked : pieces.foldlM tree.enter here = .ok there) :
    there = here ++ pieces.filter (fun piece => !piece.isEmpty) ∧ tree.IsOpen there := by
  induction pieces generalizing here with
  | nil =>
    cases walked
    exact ⟨by simp, isOpen⟩
  | cons piece pieces ih =>
    obtain ⟨⟨noDot, noDots⟩, ordinary⟩ := List.forall_mem_cons.mp ordinary
    rw [List.foldlM_cons] at walked
    obtain ⟨next, entered, walked⟩ := Failure.bind_eq_ok_iff.mp walked
    obtain ⟨rfl, opens⟩ := enter_eq_ok noDot noDots entered
    obtain ⟨rfl, opened⟩ := ih ordinary (opens isOpen) walked
    refine ⟨?_, opened⟩
    rw [List.append_assoc, ← List.filter_append, List.singleton_append]

theorem arrive_eq_ok {backwards : List String} {slashAfter : Bool} {place : Place}
    (ordinary : ∀ piece ∈ backwards, piece ≠ "." ∧ piece ≠ "..")
    (arrived : tree.arrive slashAfter backwards = .ok place) : place = .directory [] ∨
      ∃ last before here, backwards = last :: before ∧ place = .entry here last slashAfter ∧
        here = before.reverse.filter (fun piece => !piece.isEmpty) ∧ tree.IsOpen here := by
  cases backwards with
  | nil =>
    cases arrived
    exact .inl rfl
  | cons last before =>
    obtain ⟨⟨noDot, noDots⟩, ordinary⟩ := List.forall_mem_cons.mp ordinary
    rw [arrive] at arrived
    obtain ⟨here, walked, arrived⟩ := Failure.bind_eq_ok_iff.mp arrived
    rw [if_neg noDot, if_neg noDots] at arrived
    cases arrived
    have way := foldlM_enter_eq_ok (fun piece mem => ordinary piece (List.mem_reverse.mp mem))
      (isOpen_nil tree) walked
    rw [List.nil_append] at way
    exact .inr ⟨last, before, here, rfl, rfl, way⟩

/-- A walk along an ordinary path ends at its last name, if it has one. -/
theorem locate_eq_ok {place : Place} (ordinary : path.IsOrdinary)
    (located : tree.locate path = .ok place) : place = .directory [] ∨
      ∃ here name slashAfter, place = .entry here name slashAfter ∧
        path.names = here ++ [name] ∧ tree.IsOpen here := by
  have solid : ∀ piece ∈ path.pieces.reverse.dropWhile (·.isEmpty), piece ≠ "." ∧ piece ≠ ".." :=
    fun piece mem => ordinary piece (List.mem_reverse.mp ((List.dropWhile_sublist _).subset mem))
  rw [locate] at located
  obtain ⟨-, -, arrived⟩ := Failure.bind_eq_ok_iff.mp located
  rcases arrive_eq_ok solid arrived with rfl | ⟨last, before, here, eq, rfl, rfl, isOpen⟩
  · exact .inl rfl
  · have nonempty : last.isEmpty = false := by
      simpa [eq] using List.head?_dropWhile_not (·.isEmpty) path.pieces.reverse
    refine .inr ⟨_, last, _, rfl, ?_, isOpen⟩
    rw [path.names_eq, eq, List.reverse_cons, List.filter_append]
    simp [nonempty]

/-! ## Changes -/

/-- Making a directory adds what the names of the path lead to. -/
theorem withDirectory_eq_ok (ordinary : path.IsOrdinary)
    (made : tree.withDirectory path = .ok changed) : path.names ≠ [] ∧
      tree.find? path.names = none ∧ changed = tree.put path.names .directory := by
  obtain ⟨place, located, made⟩ := Failure.bind_eq_ok_iff.mp made
  rcases locate_eq_ok ordinary located with rfl | ⟨here, name, slashAfter, rfl, names, -⟩
  · cases made
  · dsimp only at made
    split at made
    · cases made
    split at made
    · cases made
    next absent =>
      cases made
      rw [names]
      exact ⟨by simp, by simpa using absent, rfl⟩

/-- Writing a file changes what the names of the path lead to, in a directory that is there. -/
theorem withFile_eq_ok {text : String} (ordinary : path.IsOrdinary)
    (written : tree.withFile path text = .ok changed) : path.names ≠ [] ∧
      (∀ above, IsAbove above path.names → tree.find? above = some .directory) ∧
      changed = tree.put path.names (.file text) := by
  obtain ⟨place, located, written⟩ := Failure.bind_eq_ok_iff.mp written
  rcases locate_eq_ok ordinary located with rfl | ⟨here, name, slashAfter, rfl, names, isOpen⟩
  · cases written
  · dsimp only at written
    split at written
    · cases written
    split at written
    · cases written
    split at written
    · cases written
    cases written
    rw [names]
    refine ⟨by simp, ?_, rfl⟩
    rintro above ⟨front, shorter⟩
    exact isOpen above ((List.prefix_concat_iff.mp front).resolve_left shorter)

end Lexicon.Storage.FileTree
