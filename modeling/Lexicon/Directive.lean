import Lexicon.Keyword.Lookup
import Lexicon.Kind.Family

/-!
# Keywords of directives

The words that may follow the mark of a directive: a block of their own and five reserved keywords.
Directives know canonical spellings only.
-/

namespace Lexicon.Directive

/-- The keywords that only directives use, in the order of their kinds. -/
def keywords : Registry KeywordGroup where
  label := "preprocessor keywords"
  block := Category.preprocessorKeyword.bounds
  entries := [
    ⟨.elifKeyword, "elif", [], .directive⟩,
    ⟨.endIfKeyword, "endif", [], .directive⟩,
    ⟨.regionKeyword, "region", [], .directive⟩,
    ⟨.endRegionKeyword, "endregion", [], .directive⟩,
    ⟨.defineKeyword, "define", [], .directive⟩,
    ⟨.undefKeyword, "undef", [], .directive⟩,
    ⟨.warningKeyword, "warning", [], .directive⟩,
    ⟨.errorKeyword, "error", [], .directive⟩,
    ⟨.lineKeyword, "line", [], .directive⟩,
    ⟨.pragmaKeyword, "pragma", [], .directive⟩,
    ⟨.hiddenKeyword, "hidden", [], .directive⟩,
    ⟨.checksumKeyword, "checksum", [], .directive⟩,
    ⟨.disableKeyword, "disable", [], .directive⟩,
    ⟨.restoreKeyword, "restore", [], .directive⟩,
    ⟨.referenceKeyword, "r", [], .directive⟩,
    ⟨.loadKeyword, "load", [], .directive⟩]

/-- The canonical spellings of the reserved keywords that directives share. -/
def sharedClaims : List (String × Kind) :=
  Kind.sharedWithDirectives.filterMap fun kind =>
    (Keyword.canonical? kind).map fun spelling => (spelling, kind)

def index : SpellingIndex :=
  (SpellingIndex.ofEntries false [keywords.entries]).claim sharedClaims

/-- The keyword that a spelling is right after the mark of a directive. -/
def resolve (spelling : String) : Option Kind := index.find? spelling

/-- The entry of a keyword that only directives use. -/
def find? (kind : Kind) : Option (Entry KeywordGroup) := keywords.find? kind

def canonical? (kind : Kind) : Option String := (find? kind).map (·.canonical)

end Lexicon.Directive
