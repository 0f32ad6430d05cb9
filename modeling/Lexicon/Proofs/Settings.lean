import Mathlib.Data.List.Induction
import Lexicon.Settings

/-!
# Settings by way of changes

Settings are made by changing the default ones, one thing after the other. Each change leaves the
others as they are, and the last one to the level of the title decides.
-/

namespace Lexicon.Settings

/-- One change to settings. -/
inductive Change where
  | format (format : OutputFormat)
  | synonyms (synonyms : Bool)
  | headingLevel (level : Nat)
  deriving DecidableEq

def change (settings : Settings) : Change → Settings
  | .format format => settings.withFormat format
  | .synonyms synonyms => settings.withSynonyms synonyms
  | .headingLevel level => settings.withHeadingLevel level

/-- The settings after some changes. -/
def changed (settings : Settings) (changes : List Change) : Settings :=
  changes.foldl change settings

/-- The level of the title for which a change asks. -/
def Change.level? : Change → Option Nat
  | headingLevel level => some level
  | _ => none

theorem headingLevel_change (settings : Settings) (change : Change) :
    (settings.change change).headingLevel =
      (change.level?.map fun level => max 1 (min level 5)).getD settings.headingLevel := by
  cases change <;> rfl

theorem headingLevel_changed (settings : Settings) (changes : List Change) :
    (settings.changed changes).headingLevel =
      ((changes.filterMap Change.level?).getLast?.map fun level => max 1 (min level 5)).getD
        settings.headingLevel := by
  induction changes using List.reverseRecOn with
  | nil => rfl
  | append_singleton changes change ih =>
    rw [changed, List.foldl_append, List.foldl_cons, List.foldl_nil, ← changed,
      headingLevel_change, ih, List.filterMap_append]
    cases asked : change.level? <;> simp [asked]

end Lexicon.Settings
