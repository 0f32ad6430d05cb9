import Lexicon.Audit.Report
import Lexicon.Audit.Vocabulary
import Lexicon.Classification
import Lexicon.Command.Refusal
import Lexicon.Expression.Construct
import Lexicon.Expression.Overload
import Lexicon.Json.Printer
import Lexicon.Kind.Enumeration
import Lexicon.Kind.Parse
import Lexicon.MethodName
import Lexicon.Settings
import Lexicon.Text

/-!
# Answers

What each command that only looks at the vocabulary answers, as text or as JSON. A command on
several operands answers for each of them or, if one cannot be read, for none.
-/

namespace Lexicon.Answer

/-- The kind that an operand denotes. -/
def kind (operand : String) : Except Refusal Kind :=
  (Kind.parse operand).mapError fun error => .usage ("Error: " ++ error.message)

/-- The kinds that operands denote, or the refusal of the first that denotes none. -/
def kinds : List String → Except Refusal (List Kind)
  | [] => .ok []
  | operand :: operands => do
    let first ← kind operand
    let more ← kinds operands
    return first :: more

/-- One line for each item. -/
def lines (items : List String) : String := "\n".intercalate items

/-- What a kind is, in fields. -/
def kindFields (kind : Kind) : List (String × Json) :=
  [("kind", .string kind.name), ("value", .number kind.code), ("text", .string kind.text)]

/-! ### Classifying -/

/-- What spellings are. -/
def classify (settings : Settings) (spellings : List String) : String :=
  let found := spellings.map (Lexicon.classify settings.synonyms)
  match settings.format with
  | .json => Json.render (.array (found.map Classification.json))
  | .text => lines (found.map Classification.line)

/-! ### Texts of kinds -/

/-- A kind and its fixed text, on one line. -/
def textLine (kind : Kind) : String := kind.name ++ ": " ++ kind.textOrRemark

/-- The fixed texts of kinds. -/
def text (settings : Settings) (operands : List String) : Except Refusal String := do
  let found ← kinds operands
  return match settings.format with
    | .json => Json.render (.array (found.map fun kind => .ofFields (kindFields kind)))
    | .text => lines (found.map textLine)

/-! ### Operators -/

/-- Every node and construct that a token leads to, with what it is called. -/
def derived (token : Kind) : List (String × Kind) :=
  token.derivations.map (fun (form, result) => (form.label, result)) ++ token.constructs

/-- In which ways a token may be overloaded. -/
def overloadable (token : Kind) : String :=
  match token.isOverloadableUnary, token.isOverloadableBinary with
  | true, true => "unary, binary"
  | true, false => "unary"
  | false, true => "binary"
  | false, false => "no"

def operatorLines (token : Kind) : List String :=
  [textLine token] ++
  (if (derived token).isEmpty then ["  (no derived kinds)"] else []) ++
  (derived token).map (fun (label, result) => "  " ++ label ++ ": " ++ result.name) ++
  ["  overloadable: " ++ overloadable token] ++
  (if (MethodName.namesOf token).isEmpty then []
    else ["  metadata: " ++ ", ".intercalate (MethodName.namesOf token)])

def operatorJson (token : Kind) : Json :=
  .ofFields (kindFields token ++
    [("derivations", .array ((derived token).map fun (label, result) =>
        .ofFields [("category", .string label), ("kind", .string result.name)])),
      ("overloadable", .ofFields
        [("unary", .bool token.isOverloadableUnary),
          ("binary", .bool token.isOverloadableBinary)]),
      ("metadata", .ofTexts (MethodName.namesOf token))])

/-- What a token leads to and how it may be overloaded. -/
def operators (settings : Settings) (operand : String) : Except Refusal String := do
  let token ← kind operand
  return match settings.format with
    | .json => Json.render (operatorJson token)
    | .text => lines (operatorLines token)

/-! ### Method names -/

def methodLine (method : MethodName) : String :=
  method.name ++ ": " ++
    (match method.token with
      | some token => token.name ++ " `" ++ token.text ++ "`"
      | none => "no token in this language") ++
    " (" ++ method.fixity.lowerName ++ ")"

def methodJson (method : MethodName) : Json :=
  .ofFields
    [("name", .string method.name), ("token", .ofText? (method.token.map Kind.name)),
      ("text", .ofText? (method.token.map Kind.text)),
      ("fixity", .string method.fixity.lowerName)]

/-- The operator of a method name. -/
def method (settings : Settings) (name : String) : Except Refusal String :=
  match MethodName.find? name with
  | none => .error (.usage ("Error: unknown operator metadata name `" ++ name ++ "`"))
  | some found => .ok (match settings.format with
    | .json => Json.render (methodJson found)
    | .text => methodLine found)

/-! ### Sets of kinds -/

/-- The synonyms that are shown for a kind. -/
def shownSynonyms (settings : Settings) (kind : Kind) : List String :=
  if settings.synonyms then Keyword.synonyms kind else []

/-- A text with blanks after it up to a width. -/
def padded (width : Nat) (text : String) : String :=
  text ++ String.ofList (List.replicate (width - text.length) ' ')

/-- A kind in a column of some width, its text, and its synonyms. -/
def listLine (settings : Settings) (width : Nat) (kind : Kind) : String :=
  padded width kind.name ++ "  " ++ kind.text ++
    (if (shownSynonyms settings kind).isEmpty then ""
      else "  (" ++ ", ".intercalate (shownSynonyms settings kind) ++ ")")

/-- Width of the longest name. -/
def nameWidth (kinds : List Kind) : Nat :=
  kinds.foldl (fun width kind => max width kind.name.length) 0

/-- The members of a set. -/
def list (settings : Settings) (set : KindSet) : String :=
  match settings.format with
  | .json => Json.render (.array (set.kinds.map fun kind =>
      .ofFields (kindFields kind ++ [("synonyms", .ofTexts (shownSynonyms settings kind))])))
  | .text => lines (set.kinds.map (listLine settings (nameWidth set.kinds)))

/-! ### The audit -/

/-- The answer to an audit that has found some violations. -/
def audit (settings : Settings) (violations : List Violation) : Except Refusal String :=
  match violations, settings.format with
  | [], .json => .ok (Json.render (.ofFields
      [("ok", .bool true), ("kinds", .number Kind.all.length),
        ("blocks", .number Category.layout.length)]))
  | [], .text => .ok ("kind space OK: " ++ toString Kind.all.length ++ " kinds in " ++
      toString Category.layout.length ++ " blocks")
  | violations, .json => .error (.failure (Json.render (.ofFields
      [("ok", .bool false), ("violations", .ofTexts (violations.map Violation.message))])))
  | violations, .text => .error (.failure (Audit.Report.mk violations).render)

/-- Whether the vocabulary is in order. -/
def check (settings : Settings) : Except Refusal String := audit settings Audit.vocabulary

end Lexicon.Answer
