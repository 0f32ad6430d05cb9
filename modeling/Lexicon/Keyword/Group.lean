/-!
# Keyword groups

Keywords are listed under headings that say what they are used for. The heading is for readers only;
no look-up depends on it.
-/

namespace Lexicon

inductive KeywordGroup where
  | predefinedType | literal | controlFlow | modifier | declaration | parameter
  | operator | expression | query | accessor | attributeTarget | directive
  deriving DecidableEq

/-- Heading of a group. -/
def KeywordGroup.label : KeywordGroup → String
  | predefinedType => "predefined type"
  | literal => "literal"
  | controlFlow => "control flow"
  | modifier => "modifier"
  | declaration => "declaration"
  | parameter => "parameter"
  | operator => "operator"
  | expression => "expression"
  | query => "query"
  | accessor => "accessor"
  | attributeTarget => "attribute target"
  | directive => "directive"

end Lexicon
