/-!
# Code spans

A spelling is set as code between backticks; one that holds a backtick is set between two, with a
blank on either side.
-/

namespace Lexicon.Markdown

def codeSpan (spelling : String) : String :=
  if '`' ∈ spelling.toList then "`` " ++ spelling ++ " ``" else "`" ++ spelling ++ "`"

/-- Spellings as code, divided by commas. -/
def codeSpans (spellings : List String) : String := ", ".intercalate (spellings.map codeSpan)

end Lexicon.Markdown
