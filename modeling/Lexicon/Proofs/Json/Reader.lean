import Lexicon.Json.Basic

/-!
# Reading JSON

A text is first cut into tokens, with blanks between them left out, and the tokens are then read by
an automaton that keeps the brackets which are open. Strings may hold every escape of the format,
the pairs of escapes for characters above 65535 among them. Numbers with a sign, a fraction or an
exponent are refused, since the values here have none.
-/

namespace Lexicon.Json

/-! ## Strings -/

def hexDigit? (c : Char) : Option Nat :=
  if '0' ≤ c ∧ c ≤ '9' then some (c.toNat - '0'.toNat)
  else if 'a' ≤ c ∧ c ≤ 'f' then some (c.toNat - 'a'.toNat + 10)
  else if 'A' ≤ c ∧ c ≤ 'F' then some (c.toNat - 'A'.toNat + 10)
  else none

/-- The number of two bytes that four hexadecimal digits stand for. -/
def codeUnit? (a b c d : Char) : Option Nat := do
  return (((← hexDigit? a) * 16 + (← hexDigit? b)) * 16 + (← hexDigit? c)) * 16 + (← hexDigit? d)

/-- The character of a code unit, which may need a second one after it. -/
def ofCodeUnit? (unit : Nat) (rest : List Char) : Option (Char × List Char) :=
  if 0xD800 ≤ unit ∧ unit < 0xDC00 then
    match rest with
    | '\\' :: 'u' :: a :: b :: c :: d :: rest => do
      let second ← codeUnit? a b c d
      if 0xDC00 ≤ second ∧ second < 0xE000 then
        some (Char.ofNat (0x10000 + (unit - 0xD800) * 0x400 + (second - 0xDC00)), rest)
      else none
    | _ => none
  else if 0xDC00 ≤ unit ∧ unit < 0xE000 then none
  else some (Char.ofNat unit, rest)

/-- The character for which the text after a backslash stands. -/
def unescape? : List Char → Option (Char × List Char)
  | '"' :: rest => some ('"', rest)
  | '\\' :: rest => some ('\\', rest)
  | '/' :: rest => some ('/', rest)
  | 'b' :: rest => some ('\x08', rest)
  | 'f' :: rest => some ('\x0c', rest)
  | 'n' :: rest => some ('\n', rest)
  | 'r' :: rest => some ('\r', rest)
  | 't' :: rest => some ('\t', rest)
  | 'u' :: a :: b :: c :: d :: rest => do ofCodeUnit? (← codeUnit? a b c d) rest
  | _ => none

/-- The next character inside a string. Control characters have to be escaped. -/
def character? : List Char → Option (Char × List Char)
  | [] => none
  | c :: rest =>
    if c = '\\' then unescape? rest
    else if c.toNat < 32 then none
    else some (c, rest)

/-! A character takes up some of the text, so reading one after the other ends. -/

theorem length_le_of_ofCodeUnit? {unit : Nat} {text rest : List Char} {c : Char}
    (read : ofCodeUnit? unit text = some (c, rest)) : rest.length ≤ text.length := by
  unfold ofCodeUnit? at read
  split at read
  · split at read
    · obtain ⟨second, -, read⟩ := Option.bind_eq_some_iff.mp read
      grind
    · cases read
  · grind

theorem length_lt_of_unescape? {text rest : List Char} {c : Char}
    (read : unescape? text = some (c, rest)) : rest.length < text.length := by
  unfold unescape? at read
  split at read
  case h_9 =>
    obtain ⟨unit, -, read⟩ := Option.bind_eq_some_iff.mp read
    have := length_le_of_ofCodeUnit? read
    grind
  all_goals grind

theorem length_lt_of_character? {text rest : List Char} {c : Char}
    (read : character? text = some (c, rest)) : rest.length < text.length := by
  unfold character? at read
  split at read
  · cases read
  · split at read
    · exact Nat.lt_trans (length_lt_of_unescape? read) (by simp)
    · grind

/-- The characters of a string up to the quote that ends it, and the text after that. -/
def unquote? (text : List Char) : Option (List Char × List Char) :=
  if text.head? = some '"' then some ([], text.tail)
  else
    match _read : character? text with
    | none => none
    | some (c, rest) => (unquote? rest).map fun (content, rest) => (c :: content, rest)
termination_by text.length
decreasing_by exact length_lt_of_character? _read

theorem length_lt_of_unquote? {text content rest : List Char}
    (read : unquote? text = some (content, rest)) : rest.length < text.length := by
  fun_induction unquote? text generalizing content rest with
  | case1 text quote =>
    cases text <;> grind
  | case2 => cases read
  | case3 text quote c more eq ih =>
    obtain ⟨⟨content, rest⟩, read, same⟩ := Option.map_eq_some_iff.mp read
    cases same
    exact Nat.lt_trans (ih read) (length_lt_of_character? eq)

/-! ## Tokens -/

inductive Token where
  | openArray | closeArray | openObject | closeObject | comma | colon
  | null
  | bool (value : Bool)
  | number (value : Nat)
  | string (text : String)
  deriving DecidableEq

/-- The number that a text starts with. No zero stands in front of other digits. -/
def number? (text : List Char) : Option (Token × List Char) :=
  match text.takeWhile Char.isDigit with
  | [] => none
  | '0' :: _ :: _ => none
  | digits => some (.number (Nat.ofDigitChars 10 digits 0), text.dropWhile Char.isDigit)

/-- The token that a text starts with, and the text after it. -/
def token? : List Char → Option (Token × List Char)
  | '[' :: rest => some (.openArray, rest)
  | ']' :: rest => some (.closeArray, rest)
  | '\x7b' :: rest => some (.openObject, rest)
  | '\x7d' :: rest => some (.closeObject, rest)
  | ',' :: rest => some (.comma, rest)
  | ':' :: rest => some (.colon, rest)
  | '"' :: rest =>
    (unquote? rest).map fun (content, rest) => (.string (String.ofList content), rest)
  | 'n' :: 'u' :: 'l' :: 'l' :: rest => some (.null, rest)
  | 't' :: 'r' :: 'u' :: 'e' :: rest => some (.bool true, rest)
  | 'f' :: 'a' :: 'l' :: 's' :: 'e' :: rest => some (.bool false, rest)
  | text => number? text

def isBlank (c : Char) : Bool := c = ' ' || c = '\t' || c = '\n' || c = '\r'

theorem length_lt_of_number? {text rest : List Char} {token : Token}
    (read : number? text = some (token, rest)) : rest.length < text.length := by
  have parts := congrArg List.length
    (List.takeWhile_append_dropWhile (p := Char.isDigit) (l := text))
  rw [List.length_append] at parts
  unfold number? at read
  split at read
  · cases read
  · cases read
  next nonempty _ =>
    have := List.length_pos_iff.mpr nonempty
    cases read
    omega

theorem length_lt_of_token? {text rest : List Char} {token : Token}
    (read : token? text = some (token, rest)) : rest.length < text.length := by
  unfold token? at read
  split at read
  case h_7 =>
    obtain ⟨⟨content, more⟩, unquoted, same⟩ := Option.map_eq_some_iff.mp read
    cases same
    exact Nat.lt_trans (length_lt_of_unquote? unquoted) (by simp)
  case h_11 => exact length_lt_of_number? read
  all_goals grind

/-- The tokens of a text. -/
def tokens? (text : List Char) : Option (List Token) :=
  match _visible : text.dropWhile isBlank with
  | [] => some []
  | c :: more =>
    match _read : token? (c :: more) with
    | none => none
    | some (token, rest) => (tokens? rest).map (token :: ·)
termination_by text.length
decreasing_by
  have := length_lt_of_token? _read
  have := congrArg List.length _visible
  have := (List.dropWhile_sublist (l := text) isBlank).length_le
  omega

/-! ## Values -/

/-- An open bracket, with what has been read behind it, last one first. -/
inductive Bracket where
  | array (elements : List Json)
  /-- The value of the name is being read. -/
  | object (fields : List (String × Json)) (name : String)

/-- What has been read, and what has to come next. The brackets are the open ones, innermost
first. -/
inductive State where
  | value (brackets : List Bracket)
  | elementOrEnd (brackets : List Bracket)
  | nameOrEnd (brackets : List Bracket)
  | name (fields : List (String × Json)) (brackets : List Bracket)
  | colon (fields : List (String × Json)) (name : String) (brackets : List Bracket)
  | done (value : Json) (brackets : List Bracket)

namespace State

/-- Reads the first token of a value. -/
def begin (brackets : List Bracket) : Token → Option State
  | .openArray => some (elementOrEnd brackets)
  | .openObject => some (nameOrEnd brackets)
  | .null => some (done Json.null brackets)
  | .bool flag => some (done (Json.bool flag) brackets)
  | .number count => some (done (Json.number count) brackets)
  | .string text => some (done (Json.string text) brackets)
  | .closeArray | .closeObject | .comma | .colon => none

def step : State → Token → Option State
  | value brackets, token => begin brackets token
  | elementOrEnd brackets, .closeArray => some (done (Json.array []) brackets)
  | elementOrEnd brackets, token => begin (.array [] :: brackets) token
  | nameOrEnd brackets, .closeObject => some (done (Json.object []) brackets)
  | nameOrEnd brackets, .string text => some (colon [] text brackets)
  | name fields brackets, .string text => some (colon fields text brackets)
  | colon fields text brackets, .colon => some (value (.object fields text :: brackets))
  | done element (.array elements :: brackets), .comma =>
    some (value (.array (element :: elements) :: brackets))
  | done element (.array elements :: brackets), .closeArray =>
    some (done (Json.array (element :: elements).reverse) brackets)
  | done field (.object fields text :: brackets), .comma =>
    some (name ((text, field) :: fields) brackets)
  | done field (.object fields text :: brackets), .closeObject =>
    some (done (Json.object ((text, field) :: fields).reverse) brackets)
  | _, _ => none

/-- The value that has been read, if nothing is missing. -/
def result? : State → Option Json
  | done read [] => some read
  | _ => none

end State

/-- The value that a text denotes. -/
def read? (text : String) : Option Json := do
  (← (← tokens? text.toList).foldlM State.step (.value [])).result?

end Lexicon.Json
