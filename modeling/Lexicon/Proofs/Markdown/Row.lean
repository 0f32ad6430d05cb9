import Lexicon.Proofs.Markdown.Layout

/-!
# Reading a row of a table

A reader of Markdown ends a cell at each bar that has no backslash directly in front of it. A bar
inside a cell is written behind a backslash, and the bar behind a cell is written behind a blank. So
the backslashes of the cells themselves neither hide a column nor open one, and a row reads back as
its cells, whatever they hold.

## Main statements

* `Markdown.pieces_barLine`: what stands between the bars of a row.
* `Markdown.readsAs_barLine`: a row reads as its cells.
* `Markdown.rows_read_back`: the rows of a page and the heads of its tables.
-/

namespace Lexicon.Markdown

variable {line front rest text : List Char} {place : Nat} {c : Char}

/-! ## Bars -/

/-- A bar with no backslash directly in front of it stands at the place. -/
def IsBar (text : List Char) (place : Nat) : Prop :=
  text[place]? = some '|' ∧ (text.take place).getLast? ≠ some '\\'

instance (text : List Char) (place : Nat) : Decidable (IsBar text place) :=
  inferInstanceAs (Decidable (_ ∧ _))

/-- The places of all such bars. -/
def bars (line : List Char) : List Nat := (List.range line.length).filter (IsBar line ·)

theorem isBar_append_left (inside : place < front.length) :
    IsBar (front ++ rest) place ↔ IsBar front place := by
  rw [IsBar, IsBar, List.getElem?_append_left inside, List.take_append_of_le_length inside.le]

/-- What stands in front can only turn a bar into an escaped one. -/
theorem IsBar.of_append (bar : IsBar (front ++ rest) (front.length + place)) :
    IsBar rest place := by
  obtain ⟨found, free⟩ := bar
  rw [List.getElem?_append_right (Nat.le_add_right ..), Nat.add_sub_cancel_left] at found
  rw [List.take_length_add_append, List.getLast?_append] at free
  exact ⟨found, fun escaped => free (by rw [escaped, Option.some_or])⟩

theorem isBar_append_right (apart : front.getLast? ≠ some '\\') :
    IsBar (front ++ rest) (front.length + place) ↔ IsBar rest place := by
  refine ⟨.of_append, fun ⟨found, free⟩ => ⟨?_, ?_⟩⟩
  · rwa [List.getElem?_append_right (Nat.le_add_right ..), Nat.add_sub_cancel_left]
  · rw [List.take_length_add_append, List.getLast?_append]
    cases before : (rest.take place).getLast? with
    | none => simpa using apart
    | some c => rwa [before] at free

theorem bars_append (apart : front.getLast? ≠ some '\\') :
    bars (front ++ rest) = bars front ++ (bars rest).map (front.length + ·) := by
  rw [bars, List.length_append, List.range_add, List.filter_append, List.filter_map]
  congr 1
  · apply List.filter_congr
    intro place mem
    simp only [isBar_append_left (List.mem_range.mp mem)]
  · congr 1
    apply List.filter_congr
    intro place _
    simp only [Function.comp_apply, isBar_append_right apart]

theorem bars_eq_nil_iff : bars line = [] ↔ ∀ place, ¬IsBar line place := by
  simp only [bars, List.filter_eq_nil_iff, List.mem_range, decide_eq_true_eq]
  refine ⟨fun empty place bar => ?_, fun empty place _ => empty place⟩
  exact empty place (List.getElem?_eq_some_iff.mp bar.1).1 bar

/-- Here a backslash at the end of the first part does no harm. -/
theorem bars_append_eq_nil (left : bars front = []) (right : bars rest = []) :
    bars (front ++ rest) = [] := by
  rw [bars_eq_nil_iff] at left right ⊢
  intro place bar
  rcases Nat.lt_or_ge place front.length with inside | behind
  · exact left place ((isBar_append_left inside).mp bar)
  · obtain ⟨place, rfl⟩ := Nat.exists_eq_add_of_le behind
    exact right place bar.of_append

/-! ## Cells -/

/-- A text with a backslash in front of each bar. -/
def escaped (text : List Char) : List Char :=
  text.flatMap fun c => if c = '|' then ['\\', '|'] else [c]

/-- A text without the one backslash directly in front of each bar. -/
def unescape : List Char → List Char
  | [] => []
  | '\\' :: '|' :: text => '|' :: unescape text
  | c :: text => c :: unescape text

theorem toList_escapeCell (cell : String) : (escapeCell cell).toList = escaped cell.toList := by
  simp [escapeCell, escaped]

theorem escaped_bar (text : List Char) : escaped ('|' :: text) = '\\' :: '|' :: escaped text := rfl

theorem escaped_cons (plain : c ≠ '|') : escaped (c :: text) = c :: escaped text := by
  simp [escaped, plain]

theorem head?_escaped_ne (text : List Char) : (escaped text).head? ≠ some '|' := by
  cases text with
  | nil => simp [escaped]
  | cons c text =>
    by_cases bar : c = '|'
    · simp [bar, escaped_bar]
    · simp [escaped_cons bar, bar]

theorem unescape_cons (apart : text.head? ≠ some '|') :
    unescape (c :: text) = c :: unescape text := by
  cases text with
  | nil => simp [unescape]
  | cons d text =>
    have plain : d ≠ '|' := by simpa using apart
    simp [unescape, plain]

theorem unescape_escaped (text : List Char) : unescape (escaped text) = text := by
  induction text with
  | nil => rfl
  | cons c text ih =>
    by_cases bar : c = '|'
    · rw [bar, escaped_bar, unescape, ih]
    · rw [escaped_cons bar, unescape_cons (head?_escaped_ne text), ih]

theorem bars_escaped (text : List Char) : bars (escaped text) = [] := by
  induction text with
  | nil => rfl
  | cons c text ih =>
    by_cases bar : c = '|'
    · have mark : bars ['\\', '|'] = [] := by decide
      rw [bar, escaped_bar]
      exact bars_append_eq_nil mark ih
    · have alone : bars [c] = [] := by simp [bars, IsBar, bar]
      rw [escaped_cons bar]
      exact bars_append_eq_nil alone ih

/-- A cell as it stands between two bars. -/
def padded (cell : List Char) : List Char := ' ' :: (escaped cell ++ [' '])

theorem bars_padded (cell : List Char) : bars (padded cell) = [] := by
  have blank : bars [' '] = [] := by decide
  exact bars_append_eq_nil blank (bars_append_eq_nil (bars_escaped cell) blank)

/-- A text without one blank at either end. -/
def unpad? : List Char → Option (List Char)
  | ' ' :: text => if text.getLast? = some ' ' then some text.dropLast else none
  | _ => none

/-- The cell that a text between two bars stands for. -/
def readCell? (piece : List Char) : Option String :=
  (unpad? piece).map fun text => String.ofList (unescape text)

theorem readCell?_padded (cell : String) : readCell? (padded cell.toList) = some cell := by
  simp [readCell?, unpad?, padded, unescape_escaped]

/-! ## Pieces -/

/-- What stands between two places of a line. -/
def slice (line : List Char) (start stop : Nat) : List Char := (line.take stop).drop (start + 1)

/-- What stands between each bar of a line and the next one. -/
def pieces (line : List Char) : List (List Char) :=
  (bars line).zipWith (slice line) (bars line).tail

theorem slice_append (start stop : Nat) :
    slice (front ++ rest) (front.length + start) (front.length + stop) = slice rest start stop := by
  rw [slice, List.take_length_add_append, Nat.add_assoc, List.drop_length_add_append, slice]

/-- If the bar after the first one is the first one of the rest, the first piece ends there. -/
theorem pieces_append (first : (bars rest).head? = some 0)
    (split : bars (front ++ rest) = 0 :: (bars rest).map (front.length + ·)) :
    pieces (front ++ rest) = front.tail :: pieces rest := by
  obtain ⟨stops, eq⟩ := List.head?_eq_some_iff.mp first
  have opening : slice (front ++ rest) 0 (front.length + 0) = front.tail := by simp [slice]
  have behind : ((bars rest).map (front.length + ·)).zipWith (slice (front ++ rest))
      (stops.map (front.length + ·)) = pieces rest := by
    rw [List.zipWith_map, pieces, eq, List.tail_cons]
    simp only [slice_append]
  rw [eq] at behind split
  rw [pieces, split, List.tail_cons, List.map_cons, List.zipWith_cons_cons, opening,
    ← List.map_cons, behind]

/-! ## Rows -/

theorem toList_barLine_cons (cell : String) (cells : List String) :
    (barLine (cell :: cells)).toList = '|' :: padded cell.toList ++ (barLine cells).toList := by
  simp [barLine, padded, toList_escapeCell]

theorem bars_barLine_cons (cell : String) (cells : List String) :
    bars (barLine (cell :: cells)).toList = 0 :: (bars (barLine cells).toList).map
      (('|' :: padded cell.toList).length + ·) := by
  have blank : ('|' :: padded cell.toList).getLast? ≠ some '\\' := by
    simp [padded, List.getLast?_cons]
  have opening : bars ('|' :: padded cell.toList) = [0] := by
    have split : bars (['|'] ++ padded cell.toList) =
        bars ['|'] ++ (bars (padded cell.toList)).map (1 + ·) := bars_append (by decide)
    rw [bars_padded] at split
    exact split
  rw [toList_barLine_cons, bars_append blank, opening, List.singleton_append]

theorem head?_bars_barLine (cells : List String) :
    (bars (barLine cells).toList).head? = some 0 := by
  cases cells with
  | nil => decide
  | cons cell cells => rw [bars_barLine_cons, List.head?_cons]

theorem getLast?_bars_barLine (cells : List String) :
    (bars (barLine cells).toList).getLast? = some ((barLine cells).toList.length - 1) := by
  induction cells with
  | nil => decide
  | cons cell cells ih =>
    have pos : 0 < (barLine cells).toList.length := by simp [barLine]
    rw [bars_barLine_cons, List.getLast?_cons, List.getLast?_map, ih, toList_barLine_cons,
      List.length_append, Nat.add_sub_assoc pos]
    rfl

theorem length_bars_barLine (cells : List String) :
    (bars (barLine cells).toList).length = cells.length + 1 := by
  induction cells with
  | nil => decide
  | cons cell cells ih => simp [bars_barLine_cons, ih]

theorem pieces_barLine (cells : List String) :
    pieces (barLine cells).toList = cells.map fun cell => padded cell.toList := by
  induction cells with
  | nil => decide
  | cons cell cells ih =>
    have split := bars_barLine_cons cell cells
    rw [toList_barLine_cons] at split
    rw [toList_barLine_cons, pieces_append (head?_bars_barLine cells) split, ih, List.tail_cons,
      List.map_cons]

/-- The cells of a row. -/
def readRow? (line : List Char) : Option (List String) := (pieces line).mapM readCell?

theorem readRow?_barLine (cells : List String) : readRow? (barLine cells).toList = some cells := by
  rw [readRow?, pieces_barLine]
  induction cells with
  | nil => rfl
  | cons cell cells ih => simp [readCell?_padded, ih]

/-- A line starts and ends with a bar, has one bar more than cells, and the texts between its bars
stand for the cells. -/
structure ReadsAs (line : List Char) (cells : List String) : Prop where
  length : (bars line).length = cells.length + 1
  first : (bars line).head? = some 0
  last : (bars line).getLast? = some (line.length - 1)
  cells : readRow? line = some cells

theorem readsAs_barLine (cells : List String) : ReadsAs (barLine cells).toList cells where
  length := length_bars_barLine cells
  first := head?_bars_barLine cells
  last := getLast?_bars_barLine cells
  cells := readRow?_barLine cells

/-- A row that is written reads as its cells, and so does the head of a table, with a row of rules
under it that is as wide. -/
theorem rows_read_back (level : Nat) (page : Page) (cells : List String) :
    ∃ line rule : String,
      (write level page (.row cells)).text = page.text ++ line ++ "\n" ∧
      (write level page (.tableHead cells)).text =
        page.setOff.text ++ line ++ "\n" ++ rule ++ "\n" ∧
      ReadsAs line.toList cells ∧ ReadsAs rule.toList (cells.map fun _ => "---") := by
  refine ⟨barLine cells, barLine (cells.map fun _ => "---"), ?_, ?_, readsAs_barLine _,
    readsAs_barLine _⟩
  · rw [write, Page.text_put, rowLine_eq, String.append_assoc]
  · rw [write, Page.text_put, Page.text_put, rowLine_eq, ruleLine_length]
    simp only [String.append_assoc]

example : readRow? "| a\\ | \\\\| |  |".toList = some ["a\\", "\\|", ""] := by decide

end Lexicon.Markdown
