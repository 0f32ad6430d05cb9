import Lexicon.Expression.Overload
import Lexicon.Kind.Enumeration
import Lexicon.Kind.Name
import Lexicon.Markdown.CodeSpan
import Lexicon.Markdown.Page
import Lexicon.Marker
import Lexicon.MethodName
import Lexicon.Settings
import Lexicon.Text

/-!
# The reference

One Markdown page on the whole vocabulary: the layout of the kind space, the tables of spellings,
the nodes that tokens reduce to and the names of operator methods.
-/

namespace Lexicon

/-- Version of the vocabulary. -/
def version : String := "0.1.0-alpha.1"

namespace Reference

open Markdown

def yesNo (flag : Bool) : String := if flag then "yes" else "no"

/-- The fixed text of a kind as code, or an empty cell. -/
def textCell (kind : Kind) : String := if kind.hasFixedText then codeSpan kind.text else ""

/-- A heading, what is said below it, and a table with its rows. -/
structure Chapter where
  heading : String
  introduction : List String := []
  columns : List String
  rows : List (List String)

namespace Chapter

def blocks (chapter : Chapter) : List Block :=
  .heading chapter.heading :: chapter.introduction.map .paragraph ++
    .tableHead chapter.columns :: chapter.rows.map .row

end Chapter

/-- The blocks of the kind space. -/
def kindSpace : Chapter where
  heading := "Kind space"
  columns := ["Block", "First", "Last", "Kinds"]
  rows := Category.layout.map fun (category, block) =>
    [category.label, bound block.first, bound block.last, toString block.size]
where
  bound (kind : Kind) : String := kind.name ++ " (" ++ toString kind.code ++ ")"

/-- A table of keywords; without synonyms it has no column for them. -/
def keywords (heading : String) (registry : Registry KeywordGroup) (synonyms : Bool) : Chapter where
  heading := heading
  columns := ["Kind", "Text"] ++ (if synonyms then ["Synonyms"] else []) ++ ["Category"]
  rows := registry.entries.map fun entry =>
    [entry.kind.name, codeSpan entry.canonical] ++
      (if synonyms then [codeSpans entry.synonyms] else []) ++ [entry.group.label]

/-- The keywords of directives, and whether they are contextual there. -/
def directives : Chapter where
  heading := "Preprocessor keywords"
  introduction := ["Directive spellings match canonical text only. `true`, `false`, `default`, " ++
    "`if`, and `else` are shared with the reserved keyword table."]
  columns := ["Kind", "Text", "Directive-contextual"]
  rows := KindSet.preprocessor.kinds.map fun kind =>
    [kind.name, codeSpan kind.text, yesNo kind.isDirectiveContextualKeyword]

/-- The markers; without synonyms each with its canonical spelling only. -/
def markers (synonyms : Bool) : Chapter where
  heading := "Pseudo-keywords"
  introduction := ["Identifiers the parser treats specially in one position. " ++
    "They have no kind of their own."]
  columns := ["Role", "Spellings"]
  rows :=
    [["implicitly typed local", spellings .implicitType],
      ["unmanaged constraint", spellings .unmanaged]]
where
  spellings (marker : Marker) : String :=
    codeSpans (if synonyms then marker.spellings else [marker.canonical])

/-- Both tables of punctuation. -/
def punctuation : Chapter where
  heading := "Punctuation"
  columns := ["Kind", "Text", "Category", "Compound"]
  rows := (Punctuation.simple.entries ++ Punctuation.compound.entries).map fun entry =>
    [entry.kind.name, codeSpan entry.canonical, entry.group.name,
      yesNo entry.kind.isCompoundPunctuation]

/-- The nodes that tokens reduce to, form by form. -/
def operators : Chapter where
  heading := "Operators"
  columns := ["Token", "Text", "Category", "Expression kind", "Overloadable"]
  rows := ExpressionForm.all.flatMap fun form => form.table.map fun row =>
    [row.token.name, textCell row.token, form.label, row.result.name,
      yesNo (row.token.isOverloadableAs form)]

/-- The names of operator methods. -/
def methodNames : Chapter where
  heading := "Operator metadata names"
  columns := ["Name", "Token", "Text", "Fixity"]
  rows := MethodName.all.map fun method =>
    [method.name, (method.token.map Kind.name).getD "(none)", (method.token.map textCell).getD "",
      method.fixity.name]

/-- The chapters, in order. -/
def chapters (settings : Settings) : List Chapter :=
  [kindSpace, keywords "Reserved keywords" Keyword.reserved settings.synonyms,
    keywords "Contextual keywords" Keyword.contextual settings.synonyms, directives,
    markers settings.synonyms, punctuation, operators, methodNames]

/-- The title, a note on where the page comes from, the list of chapters, and the chapters. -/
def blocks (settings : Settings) : List Block :=
  [.title "sharpkind syntax kind reference",
    .paragraph ("Generated by sharpkind " ++ version ++ ". Do not edit by hand; regenerate with " ++
      "`sharpkind reference`."),
    .paragraph "Contents:"] ++
  (chapters settings).map (fun chapter => .bullet chapter.heading) ++
  (chapters settings).flatMap Chapter.blocks

/-- The text of the reference. -/
def render (settings : Settings) : String :=
  Markdown.render settings.headingLevel (blocks settings)

end Reference

end Lexicon
