import Lexicon.Command.Invocation
import Lexicon.Proofs.Storage.FileTree

/-!
# Saving on a tree of files

Saving a document makes directories on the way to it and then writes one file. Each step keeps to
one relation between the tree before and the tree after, and so does any row of steps: nothing has
changed but that directories on the way are there which were not. A failure leaves it at that, and
success adds the file.

## Main statements

* `Disk.makeDirectories_keeps`: what every single step keeps to, making several directories does.
* `FileTree.Grows`, `FileTree.Saved`: what a failed and a successful attempt to save leave behind.
* `FileTree.reference_saves`: saving the reference does one or the other.
-/

namespace Lexicon.Storage

/-! ## Rows of steps -/

/-- Every run of the steps leaves a state that is related to the one before. -/
def Keeps {σ α : Type} (related : σ → σ → Prop) (steps : StateM σ α) : Prop :=
  ∀ s, related s (steps.run s).2

section Keeps

variable {σ α β : Type} {related : σ → σ → Prop} {steps : StateM σ α} {more : α → StateM σ β}

theorem Keeps.pure (refl : ∀ s, related s s) (a : α) :
    Keeps related (Pure.pure a : StateM σ α) := refl

theorem Keeps.bind (trans : ∀ {s t u}, related s t → related t u → related s u)
    (first : Keeps related steps) (rest : ∀ a, Keeps related (more a)) :
    Keeps related (steps >>= more) := fun s => trans (first s) (rest _ _)

end Keeps

namespace Disk

variable {σ : Type} {disk : Disk (StateM σ)} {related : σ → σ → Prop}

section Steps

variable (refl : ∀ s, related s s) (trans : ∀ {s t u}, related s t → related t u → related s u)
  (asking : ∀ path, Keeps related (disk.isDirectory path))

include refl trans asking

theorem tolerate_keeps (directory : Path) (result : Except FileError Unit) :
    Keeps related (disk.tolerate directory result) := by
  cases result with
  | ok => exact .pure refl _
  | error cause =>
    refine .bind trans (asking directory) fun isThere => ?_
    cases isThere with
    | true => exact .pure refl _
    | false => exact .pure refl _

theorem makeDirectories_keeps {directories : List Path}
    (making : ∀ directory ∈ directories, Keeps related (disk.makeDirectory directory)) :
    Keeps related (disk.makeDirectories directories) := by
  induction directories with
  | nil => exact .pure refl _
  | cons directory above ih =>
    obtain ⟨first, making⟩ := List.forall_mem_cons.mp making
    refine .bind trans first fun result => ?_
    split
    · refine .bind trans (ih making) fun result => ?_
      cases result with
      | error cause => exact .pure refl _
      | ok => exact .bind trans first fun result => tolerate_keeps refl trans asking _ _
    · exact tolerate_keeps refl trans asking _ _

theorem prepare_keeps {path : Path}
    (making : ∀ directory ∈ path.parents, Keeps related (disk.makeDirectory directory)) :
    Keeps related (disk.prepare path) := by
  rw [prepare]
  split
  · exact .pure refl _
  next directory above eq =>
    rw [eq] at making
    exact .bind trans (makeDirectories_keeps refl trans asking making) fun _ => .pure refl _

end Steps

/-- Saving fails with the preparation, or ends as the writing does. -/
theorem save_run (disk : Disk (StateM σ)) (path : Path) (text : String) (s : σ) :
    (∃ error, (disk.prepare path).run s = (.error error, ((disk.save path text).run s).2) ∧
      ((disk.save path text).run s).1 = .error error) ∨
    (∃ t, (disk.prepare path).run s = (.ok (), t) ∧
      (disk.save path text).run s = ((((disk.writeFile path text).run t).1.mapError
        (.writing path)), ((disk.writeFile path text).run t).2)) := by
  cases prepared : (disk.prepare path).run s with
  | mk result t =>
    cases result with
    | error error =>
      left
      rw [save, StateT.run_bind, prepared]
      exact ⟨error, rfl, rfl⟩
    | ok =>
      right
      rw [save, StateT.run_bind, prepared]
      exact ⟨t, rfl, rfl⟩

/-- Making the directories above the path fails, or else writing the file does. -/
def FailsToSave (disk : Disk (StateM σ)) (path : Path) (text : String) (s : σ) : Prop :=
  (∃ error t, (disk.prepare path).run s = (.error error, t)) ∨
    ∃ t, (disk.prepare path).run s = (.ok (), t) ∧
      ∃ cause u, (disk.writeFile path text).run t = (.error cause, u)

theorem failsToSave_iff {path : Path} {text : String} {s : σ} :
    disk.FailsToSave path text s ↔ ∃ error, ((disk.save path text).run s).1 = .error error := by
  rcases disk.save_run path text s with ⟨error, prepared, failed⟩ | ⟨t, prepared, saved⟩
  · exact ⟨fun _ => ⟨error, failed⟩, fun _ => .inl ⟨error, _, prepared⟩⟩
  · constructor
    · rintro (⟨error, _, eq⟩ | ⟨_, eq, cause, u, failed⟩) <;> rw [prepared] at eq <;> cases eq
      rw [saved, failed]
      exact ⟨_, rfl⟩
    · rintro ⟨error, failed⟩
      rw [saved] at failed
      obtain ⟨cause, failed, -⟩ := Failure.mapError_eq_error_iff.mp failed
      exact .inr ⟨t, prepared, cause, _, Prod.ext failed rfl⟩

end Disk

/-! ## Saving -/

namespace FileTree

variable {names : List String} {before between after tree : FileTree} {path : Path}

/-- Directories have been added above what the names lead to, and nothing else has changed. -/
def Grows (names : List String) (before after : FileTree) : Prop :=
  ∀ other, after.find? other = before.find? other ∨
    (IsAbove other names ∧ before.find? other = none ∧ after.find? other = some .directory)

/-- The path is that of a file of the text below directories, and nothing else has changed but for
directories above it that were not there. -/
structure Saved (path : Path) (text : String) (before after : FileTree) : Prop where
  file : after.find? path.names = some (.file text)
  above : ∀ above, IsAbove above path.names → after.find? above = some .directory
  others : ∀ other, other ≠ path.names → after.find? other = before.find? other ∨
    (IsAbove other path.names ∧ before.find? other = none)

theorem Grows.refl (names : List String) (tree : FileTree) : Grows names tree tree :=
  fun _ => .inl rfl

theorem Grows.trans (first : Grows names before between) (second : Grows names between after) :
    Grows names before after := by
  intro other
  rcases second other with same | ⟨isAbove, absent, added⟩
  · rw [same]
    exact first other
  · rcases first other with same | ⟨-, -, present⟩
    · exact .inr ⟨isAbove, same ▸ absent, added⟩
    · rw [present] at absent
      cases absent

theorem attempt_run (change : FileTree → Except FileError FileTree) (tree : FileTree) :
    (∃ cause, (attempt change).run tree = (.error cause, tree)) ∨
      ∃ changed, change tree = .ok changed ∧ (attempt change).run tree = (.ok (), changed) := by
  cases eq : change tree with
  | error cause => exact .inl ⟨cause, by simp [attempt, StateT.run, eq]⟩
  | ok changed => exact .inr ⟨changed, rfl, by simp [attempt, StateT.run, eq]⟩

theorem makeDirectory_keeps (ordinary : path.IsOrdinary) (isAbove : IsAbove path.names names) :
    Keeps (Grows names) (disk.makeDirectory path) := by
  intro tree
  rcases attempt_run (·.withDirectory path) tree with ⟨cause, eq⟩ | ⟨changed, made, eq⟩
  · rw [disk, eq]
    exact .refl names tree
  · obtain ⟨nonempty, absent, rfl⟩ := withDirectory_eq_ok ordinary made
    rw [disk, eq]
    intro other
    rw [find?_put nonempty]
    by_cases same : other = path.names
    · subst same
      exact .inr ⟨isAbove, absent, if_pos rfl⟩
    · exact .inl (if_neg same)

theorem prepare_keeps (ordinary : path.IsOrdinary) :
    Keeps (Grows path.names) (disk.prepare path) :=
  Disk.prepare_keeps (Grows.refl _) Grows.trans (fun _ tree => Grows.refl _ tree)
    fun _ mem => makeDirectory_keeps (ordinary.of_mem_parents mem)
      (ordinary.isAbove_of_mem_parents mem)

/-- Writing a file below directories added on the way to it completes the saving. -/
theorem Grows.saved (grows : Grows path.names before between) (nonempty : path.names ≠ [])
    (above : ∀ above, IsAbove above path.names → between.find? above = some .directory)
    (text : String) : Saved path text before (between.put path.names (.file text)) where
  file := by rw [find?_put nonempty, if_pos rfl]
  above other isAbove := by
    rw [find?_put nonempty, if_neg isAbove.2]
    exact above other isAbove
  others other different := by
    rw [find?_put nonempty, if_neg different]
    exact (grows other).imp_right fun ⟨isAbove, absent, _⟩ => ⟨isAbove, absent⟩

theorem save_saves (ordinary : path.IsOrdinary) (text : String) (tree : FileTree) :
    (∃ after, (disk.save path text).run tree = (.ok (), after) ∧ Saved path text tree after) ∨
      ∃ error after, (disk.save path text).run tree = (.error error, after) ∧
        Grows path.names tree after := by
  have grows := prepare_keeps ordinary tree
  rcases disk.save_run path text tree with ⟨error, prepared, failed⟩ | ⟨between, prepared, saved⟩
  · rw [prepared] at grows
    exact .inr ⟨error, _, Prod.ext failed rfl, grows⟩
  · rw [prepared] at grows
    rcases attempt_run (·.withFile path text) between with ⟨cause, eq⟩ | ⟨after, written, eq⟩
    · rw [saved, disk, eq]
      exact .inr ⟨_, _, rfl, grows⟩
    · obtain ⟨nonempty, above, rfl⟩ := withFile_eq_ok ordinary written
      rw [saved, disk, eq]
      exact .inl ⟨_, rfl, grows.saved nonempty above text⟩

end FileTree

end Lexicon.Storage
