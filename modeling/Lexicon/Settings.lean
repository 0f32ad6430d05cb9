/-!
# Settings

How commands print: as text or as JSON, with or without synonyms, and at which level the headings of
the reference start.
-/

namespace Lexicon

/-- The forms of output. -/
inductive OutputFormat where
  /-- Lines for readers. -/
  | text
  | json
  deriving DecidableEq

/-- The format of a name. -/
def OutputFormat.ofName? : String → Option OutputFormat
  | "text" => some .text
  | "json" => some .json
  | _ => none

/-- How output is printed. Sections stand one level below the title and Markdown has six levels, so
the title stands at one of the first five. -/
structure Settings where
  format : OutputFormat := .text
  /-- Synonyms are accepted and shown. -/
  synonyms : Bool := true
  /-- Level of the title. -/
  headingLevel : Nat := 1
  one_le_headingLevel : 1 ≤ headingLevel := by decide
  headingLevel_le_five : headingLevel ≤ 5 := by decide
  deriving DecidableEq

namespace Settings

def withFormat (settings : Settings) (format : OutputFormat) : Settings :=
  { settings with format }

def withSynonyms (settings : Settings) (synonyms : Bool) : Settings :=
  { settings with synonyms }

/-- Puts the title at the level nearest to the given one at which it may stand. -/
def withHeadingLevel (settings : Settings) (level : Nat) : Settings :=
  { settings with
    headingLevel := max 1 (min level 5)
    one_le_headingLevel := by omega
    headingLevel_le_five := by omega }

end Settings

end Lexicon
