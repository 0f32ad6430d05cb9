import Mathlib.Tactic.SplitIfs
import Lexicon.Json.Printer
import Lexicon.Proofs.Json.Reader

/-!
# Reading what is printed

A printed value is read back as itself. Its text is first seen to consist of the tokens of the value
with blanks between them, and the tokens are then read bracket by bracket.

## Main statements

* `tokens?_write`: the text of a value is cut into the tokens of the value.
* `foldlM_step_tokens`: the tokens of a value are read as the value, whatever brackets are open.
* `read?_render`: reading undoes printing.
-/

namespace Lexicon.Json

/-! ## Strings -/

theorem hexDigit?_digitChar {digit : Nat} (bound : digit < 16) :
    hexDigit? (Nat.digitChar digit) = some digit := by
  have digits : ∀ digit < 16, hexDigit? (Nat.digitChar digit) = some digit := by decide
  exact digits digit bound

theorem codeUnit?_hexPair {n : Nat} (bound : n < 32) :
    codeUnit? '0' '0' (Nat.digitChar (n / 16)) (Nat.digitChar (n % 16)) = some n := by
  have high : hexDigit? (Nat.digitChar (n / 16)) = some (n / 16) := hexDigit?_digitChar (by omega)
  have low : hexDigit? (Nat.digitChar (n % 16)) = some (n % 16) := hexDigit?_digitChar (by omega)
  have zero : hexDigit? '0' = some 0 := by decide
  simp only [codeUnit?, zero, high, low]
  simp
  omega

theorem character?_escape (c : Char) (rest : List Char) :
    character? (escape c ++ rest) = some (c, rest) := by
  unfold escape
  split_ifs with h h h h h h h control <;> try (subst h; rfl)
  · have small : ofCodeUnit? c.toNat rest = some (c, rest) := by
      unfold ofCodeUnit?
      rw [if_neg (by omega), if_neg (by omega), Char.ofNat_toNat]
    show unescape? ('u' :: '0' :: '0' :: Nat.digitChar (c.toNat / 16) ::
      Nat.digitChar (c.toNat % 16) :: rest) = _
    simp only [unescape?, codeUnit?_hexPair control]
    exact small
  · simp [character?, *]

theorem unquote?_quote (rest : List Char) : unquote? ('"' :: rest) = some ([], rest) := by
  simp [unquote?]

theorem unquote?_escape (c : Char) (rest : List Char) : unquote? (escape c ++ rest) =
    (unquote? rest).map fun (content, rest) => (c :: content, rest) := by
  have inside : (escape c ++ rest).head? ≠ some '"' := by
    unfold escape
    split_ifs <;> simp_all
  rw [unquote?, if_neg inside]
  split
  next none => simp [character?_escape] at none
  next other more read =>
    rw [character?_escape] at read
    cases read
    rfl

theorem unquote?_flatMap_escape (content rest : List Char) :
    unquote? (content.flatMap escape ++ '"' :: rest) = some (content, rest) := by
  induction content with
  | nil => exact unquote?_quote rest
  | cons c content ih => simp [List.append_assoc, unquote?_escape, ih]

/-! ## Tokens -/

theorem tokens?_eq (text : List Char) : tokens? text =
    match text.dropWhile isBlank with
    | [] => some []
    | c :: more => (token? (c :: more)).bind fun (token, rest) =>
      (tokens? rest).map (token :: ·) := by
  rw [tokens?]
  split
  next empty => rw [empty]
  next c more visible =>
    rw [visible]
    split
    next unread => simp [unread]
    next token rest read => simp [read]

theorem tokens?_blank {blanks : List Char} (all : ∀ c ∈ blanks, isBlank c) (rest : List Char) :
    tokens? (blanks ++ rest) = tokens? rest := by
  rw [tokens?_eq, tokens?_eq rest, List.dropWhile_append_of_pos all]

theorem tokens?_token {c : Char} {more rest : List Char} {token : Token}
    (visible : isBlank c = false) (read : token? (c :: more) = some (token, rest)) :
    tokens? (c :: more) = (tokens? rest).map (token :: ·) := by
  rw [tokens?_eq, List.dropWhile_cons_of_neg (by simp [visible])]
  simp only [read, Option.bind_some]

theorem tokens?_line (depth : Nat) (rest : List Char) :
    tokens? (line depth ++ rest) = tokens? rest := by
  refine tokens?_blank (fun c mem => ?_) rest
  rcases List.mem_cons.mp mem with rfl | mem
  · rfl
  · rw [List.eq_of_mem_replicate mem]
    rfl

theorem tokens?_space (rest : List Char) : tokens? (' ' :: rest) = tokens? rest :=
  @tokens?_blank [' '] (by simp [isBlank]) rest

theorem tokens?_quote (text : String) (rest : List Char) :
    tokens? (quote text ++ rest) = (tokens? rest).map (.string text :: ·) := by
  refine tokens?_token rfl ?_
  simp [token?, unquote?_flatMap_escape]

/-- The text does not go on with a digit. -/
def Stops (text : List Char) : Prop := ∀ c ∈ text.head?, c.isDigit = false

/-- No zero stands in front of the other digits of a number. -/
theorem toDigits_ne_zero_cons (n : Nat) (c : Char) (more : List Char) :
    Nat.toDigits 10 n ≠ '0' :: c :: more := by
  induction n using Nat.strongRecOn generalizing c more with
  | ind n ih =>
    rw [Nat.toDigits_eq_if (by decide)]
    split
    · simp
    next large =>
      intro eq
      cases digits : Nat.toDigits 10 (n / 10) with
      | nil => exact Nat.toDigits_ne_nil digits
      | cons first others =>
        rw [digits, List.cons_append] at eq
        obtain ⟨rfl, eq⟩ := List.cons.inj eq
        cases others with
        | nil =>
          have value : n / 10 = Nat.ofDigitChars 10 ['0'] 0 := by
            rw [← digits, Nat.ofDigitChars_ten_toDigits]
          have : Nat.ofDigitChars 10 ['0'] 0 = 0 := by decide
          omega
        | cons second others => exact ih (n / 10) (by omega) second others digits

theorem token?_digit {c : Char} (digit : c.isDigit) (more : List Char) :
    token? (c :: more) = number? (c :: more) := by
  unfold token?
  split <;> simp_all

theorem isBlank_eq_false {c : Char} (digit : c.isDigit) : isBlank c = false := by
  cases blank : isBlank c with
  | false => rfl
  | true =>
    have : c = ' ' ∨ c = '\t' ∨ c = '\n' ∨ c = '\r' := by
      simpa [isBlank, or_assoc] using blank
    rcases this with rfl | rfl | rfl | rfl <;> cases digit

theorem tokens?_number (number : Nat) {rest : List Char} (stops : Stops rest) :
    tokens? ((toString number).toList ++ rest) = (tokens? rest).map (.number number :: ·) := by
  have digits : ∀ c ∈ Nat.toDigits 10 number, c.isDigit := fun c mem =>
    Nat.isDigit_of_mem_toDigits (by decide) (by decide) mem
  have read : number? (Nat.toDigits 10 number ++ rest) = some (.number number, rest) := by
    have taken : (Nat.toDigits 10 number ++ rest).takeWhile Char.isDigit =
        Nat.toDigits 10 number := by
      rw [List.takeWhile_append_of_pos digits]
      cases rest with
      | nil => simp
      | cons c rest => simp [stops c rfl]
    have dropped : (Nat.toDigits 10 number ++ rest).dropWhile Char.isDigit = rest := by
      rw [List.dropWhile_append_of_pos digits]
      cases rest with
      | nil => rfl
      | cons c rest => simp [stops c rfl]
    unfold number?
    rw [taken, dropped]
    split
    next empty => exact absurd empty Nat.toDigits_ne_nil
    next eq => exact absurd eq (toDigits_ne_zero_cons _ _ _)
    next => rw [Nat.ofDigitChars_ten_toDigits]
  have printed : (toString number).toList = Nat.toDigits 10 number := Nat.toList_repr
  rw [printed]
  cases eq : Nat.toDigits 10 number with
  | nil => exact absurd eq Nat.toDigits_ne_nil
  | cons c more =>
    have digit : c.isDigit := digits c (by simp [eq])
    rw [eq, List.cons_append, ← token?_digit digit] at read
    exact tokens?_token (isBlank_eq_false digit) read

theorem stops_line (depth : Nat) (rest : List Char) : Stops (line depth ++ rest) := by
  simp [Stops, line]

mutual

/-- The tokens of a value. -/
def tokens : Json → List Token
  | .null => [.null]
  | .bool value => [.bool value]
  | .number value => [.number value]
  | .string text => [.string text]
  | .array [] => [.openArray, .closeArray]
  | .array (element :: elements) => .openArray :: tokens element ++ elementTokens elements
  | .object [] => [.openObject, .closeObject]
  | .object ((name, value) :: fields) =>
    .openObject :: .string name :: .colon :: tokens value ++ fieldTokens fields

/-- The tokens of further elements and of the bracket behind them. -/
def elementTokens : List Json → List Token
  | [] => [.closeArray]
  | element :: elements => .comma :: tokens element ++ elementTokens elements

/-- The tokens of further fields and of the bracket behind them. -/
def fieldTokens : List (String × Json) → List Token
  | [] => [.closeObject]
  | (name, value) :: fields =>
    .comma :: .string name :: .colon :: tokens value ++ fieldTokens fields

end

theorem stops_writeElements (depth : Nat) (elements : List Json) (outer : Nat) (rest : List Char) :
    Stops (writeElements depth elements ++ (line outer ++ rest)) := by
  cases elements with
  | nil => simpa [writeElements] using stops_line outer rest
  | cons element elements => simp [Stops, writeElements]

theorem stops_writeFields (depth : Nat) (fields : List (String × Json)) (outer : Nat)
    (rest : List Char) : Stops (writeFields depth fields ++ (line outer ++ rest)) := by
  cases fields with
  | nil => simpa [writeFields] using stops_line outer rest
  | cons field fields => simp [Stops, writeFields]

mutual

theorem tokens?_write (depth : Nat) (value : Json) {rest : List Char} (stops : Stops rest) :
    tokens? (write depth value ++ rest) = (tokens? rest).map (tokens value ++ ·) := by
  cases value with
  | null => exact tokens?_token rfl rfl
  | bool value => cases value <;> exact tokens?_token rfl rfl
  | number value => exact tokens?_number value stops
  | string text => exact tokens?_quote text rest
  | array elements =>
    cases elements with
    | nil =>
      rw [write, List.cons_append, tokens?_token rfl rfl, List.cons_append, tokens?_token rfl rfl]
      simp [tokens, Function.comp_def]
    | cons element elements =>
      have first := tokens?_write (depth + 1) element
        (stops_writeElements (depth + 1) elements depth (']' :: rest))
      have more := tokens?_writeElements (depth + 1) elements depth rest
      simp only [write, List.cons_append, List.append_assoc, List.nil_append]
      rw [tokens?_token rfl rfl, tokens?_line, first, more]
      simp [tokens, Function.comp_def]
  | object fields =>
    cases fields with
    | nil =>
      rw [write, List.cons_append, tokens?_token rfl rfl, List.cons_append, tokens?_token rfl rfl]
      simp [tokens, Function.comp_def]
    | cons field fields =>
      obtain ⟨name, value⟩ := field
      have first := tokens?_write (depth + 1) value
        (stops_writeFields (depth + 1) fields depth ('\x7d' :: rest))
      have more := tokens?_writeFields (depth + 1) fields depth rest
      simp only [write, List.cons_append, List.append_assoc, List.nil_append]
      rw [tokens?_token rfl rfl, tokens?_line, tokens?_quote, tokens?_token rfl rfl, tokens?_space,
        first, more]
      simp [tokens, Function.comp_def]

theorem tokens?_writeElements (depth : Nat) (elements : List Json) (outer : Nat)
    (rest : List Char) : tokens? (writeElements depth elements ++ (line outer ++ ']' :: rest)) =
      (tokens? rest).map (elementTokens elements ++ ·) := by
  cases elements with
  | nil =>
    rw [writeElements, List.nil_append, tokens?_line, tokens?_token rfl rfl]
    simp [elementTokens]
  | cons element elements =>
    have first := tokens?_write depth element
      (stops_writeElements depth elements outer (']' :: rest))
    have more := tokens?_writeElements depth elements outer rest
    simp only [writeElements, List.cons_append, List.append_assoc]
    rw [tokens?_token rfl rfl, tokens?_line, first, more]
    simp [elementTokens, Function.comp_def]

theorem tokens?_writeFields (depth : Nat) (fields : List (String × Json)) (outer : Nat)
    (rest : List Char) : tokens? (writeFields depth fields ++ (line outer ++ '\x7d' :: rest)) =
      (tokens? rest).map (fieldTokens fields ++ ·) := by
  cases fields with
  | nil =>
    rw [writeFields, List.nil_append, tokens?_line, tokens?_token rfl rfl]
    simp [fieldTokens]
  | cons field fields =>
    obtain ⟨name, value⟩ := field
    have first := tokens?_write depth value
      (stops_writeFields depth fields outer ('\x7d' :: rest))
    have more := tokens?_writeFields depth fields outer rest
    simp only [writeFields, List.cons_append, List.append_assoc, List.nil_append]
    rw [tokens?_token rfl rfl, tokens?_line, tokens?_quote, tokens?_token rfl rfl, tokens?_space,
      first, more]
    simp [fieldTokens, Function.comp_def]

end

/-! ## Values -/

/-- A bracket that has just been opened is not closed by the tokens of a value. -/
theorem foldlM_step_elementOrEnd (value : Json) (more : List Token) (brackets : List Bracket) :
    (tokens value ++ more).foldlM State.step (.elementOrEnd brackets) =
      (tokens value ++ more).foldlM State.step (.value (.array [] :: brackets)) := by
  cases value with
  | null | bool | number | string => rfl
  | array elements => cases elements <;> simp [tokens, State.step]
  | object fields => cases fields <;> simp [tokens, State.step]

mutual

/-- The tokens of a value are read as the value. -/
theorem foldlM_step_tokens (value : Json) (more : List Token) (brackets : List Bracket) :
    (tokens value ++ more).foldlM State.step (.value brackets) =
      more.foldlM State.step (.done value brackets) := by
  cases value with
  | null | bool | number | string => rfl
  | array elements =>
    cases elements with
    | nil => rfl
    | cons element elements =>
      have first := foldlM_step_tokens element (elementTokens elements ++ more)
        (.array [] :: brackets)
      have others := foldlM_step_elementTokens elements element [] more brackets
      simp only [tokens, List.cons_append, List.append_assoc]
      rw [List.foldlM_cons]
      show (tokens element ++ _).foldlM State.step (.elementOrEnd brackets) = _
      rw [foldlM_step_elementOrEnd, first, others]
      rfl
  | object fields =>
    cases fields with
    | nil => rfl
    | cons field fields =>
      obtain ⟨name, value⟩ := field
      have first := foldlM_step_tokens value (fieldTokens fields ++ more)
        (.object [] name :: brackets)
      have others := foldlM_step_fieldTokens fields name value [] more brackets
      simp only [tokens, List.cons_append, List.append_assoc]
      show (tokens value ++ _).foldlM State.step (.value (.object [] name :: brackets)) = _
      rw [first, others]
      rfl

theorem foldlM_step_elementTokens (elements : List Json) (element : Json) (before : List Json)
    (more : List Token) (brackets : List Bracket) :
    (elementTokens elements ++ more).foldlM State.step (.done element (.array before :: brackets)) =
      more.foldlM State.step (.done (.array (before.reverse ++ element :: elements)) brackets) := by
  cases elements with
  | nil =>
    simp [elementTokens, State.step]
  | cons next elements =>
    have first := foldlM_step_tokens next (elementTokens elements ++ more)
      (.array (element :: before) :: brackets)
    have others := foldlM_step_elementTokens elements next (element :: before) more brackets
    simp only [elementTokens, List.cons_append, List.append_assoc]
    show (tokens next ++ _).foldlM State.step (.value (.array (element :: before) :: brackets)) = _
    rw [first, others]
    simp

theorem foldlM_step_fieldTokens (fields : List (String × Json)) (name : String) (value : Json)
    (before : List (String × Json)) (more : List Token) (brackets : List Bracket) :
    (fieldTokens fields ++ more).foldlM State.step (.done value (.object before name :: brackets)) =
      more.foldlM State.step
        (.done (.object (before.reverse ++ (name, value) :: fields)) brackets) := by
  cases fields with
  | nil =>
    simp [fieldTokens, State.step]
  | cons field fields =>
    obtain ⟨next, nextValue⟩ := field
    have first := foldlM_step_tokens nextValue (fieldTokens fields ++ more)
      (.object ((name, value) :: before) next :: brackets)
    have others := foldlM_step_fieldTokens fields next nextValue ((name, value) :: before) more
      brackets
    simp only [fieldTokens, List.cons_append, List.append_assoc]
    show (tokens nextValue ++ _).foldlM State.step
      (.value (.object ((name, value) :: before) next :: brackets)) = _
    rw [first, others]
    simp

end

theorem render_ne_empty (value : Json) : render value ≠ "" := by
  suffices write 0 value ≠ [] by simpa [render] using this
  cases value with
  | null => simp [write]
  | bool value => cases value <;> simp [write]
  | number value => simp [write]
  | string text => simp [write, quote]
  | array elements => cases elements <;> simp [write]
  | object fields => cases fields <;> simp [write]

/-- Reading undoes printing. -/
theorem read?_render (value : Json) : read? (render value) = some value := by
  have cut := @tokens?_write 0 value [] (by simp [Stops])
  have read := foldlM_step_tokens value [] []
  rw [List.append_nil] at cut read
  have ended : tokens? [] = some [] := by rw [tokens?_eq]; rfl
  rw [read?, render, String.toList_ofList, cut, ended]
  simp [read, State.result?]

end Lexicon.Json
