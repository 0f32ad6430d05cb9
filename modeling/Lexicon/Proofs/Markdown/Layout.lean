import Lexicon.Proofs.Markdown.Page
import Lexicon.Proofs.Settings

/-!
# Layout of a page

A page is laid out line by line: each block has lines of its own, and between two blocks stands one
empty line or none, which the two blocks alone decide. While the page is written the rule is not
local, since headings write line ends ahead and other blocks trim what they find. What carries it is
that a page ends in two line ends behind a heading and in one behind any other block.

## Main statements

* `layout`: the lines of a page, block by block.
* `render_eq_layout`: the text of a page consists of these lines.
* `render_changed`: the layout under any settings.
-/

namespace Lexicon.Markdown

open LineEnd

/-- A row of a table as a line, without its line end. -/
def barLine (cells : List String) : String :=
  "|" ++ String.join (cells.map fun cell => " " ++ escapeCell cell ++ " |")

namespace Block

/-- There is an empty line in front of the block. -/
def isSetOff : Block → Bool
  | title _ | heading _ | paragraph _ | tableHead _ => true
  | bullet _ | row _ => false

/-- There is an empty line behind the block. -/
def isHeading : Block → Bool
  | title _ | heading _ => true
  | paragraph _ | bullet _ | tableHead _ | row _ => false

/-- The lines of a block itself. -/
def lines (level : Nat) : Block → List String
  | title text => [marks level ++ " " ++ text]
  | heading text => [marks (level + 1) ++ " " ++ text]
  | paragraph text => [text]
  | bullet text => ["- " ++ text]
  | tableHead cells => [barLine cells, barLine (cells.map fun _ => "---")]
  | row cells => [barLine cells]

/-- No text of the block holds a line end, and a paragraph is not empty. -/
def IsPlain : Block → Prop
  | title text | heading text | bullet text => '\n' ∉ text.toList
  | paragraph text => '\n' ∉ text.toList ∧ text ≠ ""
  | tableHead cells | row cells => ∀ cell ∈ cells, '\n' ∉ cell.toList

instance : (block : Block) → Decidable block.IsPlain
  | title text | heading text | bullet text => inferInstanceAs (Decidable ('\n' ∉ text.toList))
  | paragraph text => inferInstanceAs (Decidable ('\n' ∉ text.toList ∧ text ≠ ""))
  | tableHead cells | row cells =>
    inferInstanceAs (Decidable (∀ cell ∈ cells, '\n' ∉ cell.toList))

end Block

/-- The lines between two blocks. -/
def gap (earlier later : Block) : List String :=
  if later.isSetOff ∨ earlier.isHeading then [""] else []

/-- The lines behind a block. -/
def linesAfter (level : Nat) : Block → List Block → List String
  | _, [] => []
  | earlier, block :: blocks =>
    gap earlier block ++ block.lines level ++ linesAfter level block blocks

/-- The lines of a page. -/
def layout (level : Nat) : List Block → List String
  | [] => []
  | block :: blocks => block.lines level ++ linesAfter level block blocks

/-! ## Lines of a block -/

theorem not_mem_toList_escapeCell {cell : String} (plain : '\n' ∉ cell.toList) :
    '\n' ∉ (escapeCell cell).toList := by
  simp only [escapeCell, String.toList_ofList, List.mem_flatMap, not_exists, not_and]
  intro c mem
  by_cases bar : c = '|'
  · simp [bar]
  · have : '\n' ≠ c := fun same => plain (same ▸ mem)
    simpa [bar] using this

theorem not_mem_toList_barLine {cells : List String}
    (plain : ∀ cell ∈ cells, '\n' ∉ cell.toList) : '\n' ∉ (barLine cells).toList := by
  have escaped (cell : String) (mem : cell ∈ cells) : '\n' ∉ (escapeCell cell).toList :=
    not_mem_toList_escapeCell (plain cell mem)
  simpa [barLine] using escaped

theorem not_mem_toList_marks (level : Nat) : '\n' ∉ (marks level).toList := by
  simp [marks, List.mem_replicate]

namespace Block

variable {block : Block} {level : Nat} {line : String}

theorem lines_ne_nil (level : Nat) (block : Block) : block.lines level ≠ [] := by
  cases block <;> simp [lines]

theorem not_mem_of_mem_lines (plain : block.IsPlain) (mem : line ∈ block.lines level) :
    '\n' ∉ line.toList := by
  cases block with
  | title text | heading text =>
    obtain rfl := List.mem_singleton.mp mem
    simpa [not_mem_toList_marks, IsPlain] using plain
  | paragraph text =>
    obtain rfl := List.mem_singleton.mp mem
    exact plain.1
  | bullet text =>
    obtain rfl := List.mem_singleton.mp mem
    simpa [IsPlain] using plain
  | tableHead cells =>
    rcases List.mem_pair.mp mem with rfl | rfl
    · exact not_mem_toList_barLine plain
    · exact not_mem_toList_barLine (by simp)
  | row cells =>
    obtain rfl := List.mem_singleton.mp mem
    exact not_mem_toList_barLine plain

theorem ne_empty_of_mem_lines (plain : block.IsPlain) (mem : line ∈ block.lines level) :
    line ≠ "" := by
  cases block with
  | paragraph text =>
    obtain rfl := List.mem_singleton.mp mem
    exact plain.2
  | tableHead cells => rcases List.mem_pair.mp mem with rfl | rfl <;> simp [barLine]
  | title text | heading text | bullet text | row cells =>
    obtain rfl := List.mem_singleton.mp mem
    simp [barLine]

theorem isSolid_of_mem_lines (plain : block.IsPlain) (mem : line ∈ block.lines level) :
    IsSolid line.toList :=
  isSolid_of_not_mem (by simpa using ne_empty_of_mem_lines plain mem)
    (not_mem_of_mem_lines plain mem)

end Block

/-! ## Writing line by line -/

/-- Lines behind a text, each on a line of its own. -/
def ended (lines : List String) : List Char := lines.flatMap fun line => '\n' :: line.toList

theorem ended_append (first second : List String) :
    ended (first ++ second) = ended first ++ ended second := List.flatMap_append

theorem toList_intercalate_append {lines : List String} (nonempty : lines ≠ [])
    (more : List String) : ("\n".intercalate (lines ++ more)).toList =
      ("\n".intercalate lines).toList ++ ended more := by
  induction more generalizing lines with
  | nil => simp [ended]
  | cons line more ih =>
    have rest := @ih (lines ++ [line]) (by simp)
    rw [List.append_assoc, List.singleton_append] at rest
    rw [rest, String.intercalate_append_of_ne_nil nonempty (by simp)]
    simp [ended]

theorem newline_cons_toList_intercalate {lines : List String} (nonempty : lines ≠ []) :
    '\n' :: ("\n".intercalate lines).toList = ended lines := by
  cases lines with
  | nil => exact absurd rfl nonempty
  | cons line lines =>
    have := toList_intercalate_append (List.cons_ne_nil line []) lines
    rw [List.singleton_append] at this
    rw [this]
    simp [ended]

theorem isSolid_append_ended {lines : List String} (nonempty : lines ≠ [])
    (solid : ∀ line ∈ lines, IsSolid line.toList) (text : List Char) :
    IsSolid (text ++ ended lines) := by
  obtain ⟨front, line, rfl⟩ := (List.eq_nil_or_concat lines).resolve_left nonempty
  have last : IsSolid line.toList := solid line (by simp)
  rw [List.concat_eq_append, ended_append]
  simpa [ended] using last.append_left (text ++ ended front ++ ['\n'])

theorem isSolid_intercalate {lines : List String} (nonempty : lines ≠ [])
    (solid : ∀ line ∈ lines, IsSolid line.toList) :
    IsSolid ("\n".intercalate lines).toList := by
  cases lines with
  | nil => exact absurd rfl nonempty
  | cons line lines =>
    have split := toList_intercalate_append (List.cons_ne_nil line []) lines
    rw [List.singleton_append, String.intercalate_singleton] at split
    rw [split]
    by_cases more : lines = []
    · simpa [more, ended] using solid line (by simp)
    · exact isSolid_append_ended more (fun other mem => solid other (by simp [mem])) _

theorem Block.IsPlain.isSolid_lines {block : Block} (plain : block.IsPlain) (level : Nat) :
    IsSolid ("\n".intercalate (block.lines level)).toList :=
  isSolid_intercalate (block.lines_ne_nil level) fun _ => Block.isSolid_of_mem_lines plain

/-! ## Writing block by block -/

/-- Number of line ends that are written behind a block. -/
def Block.ends (block : Block) : Nat := if block.isHeading then 2 else 1

theorem rowLine_eq (cells : List String) : rowLine cells = barLine cells ++ "\n" := rfl

theorem ruleLine_length (cells : List String) :
    ruleLine cells.length = barLine (cells.map fun _ => "---") ++ "\n" := by
  rw [ruleLine, rowLine_eq, List.map_const']

theorem write_eq (level : Nat) (page : Page) (block : Block) :
    write level page block = (if block.isSetOff then page.setOff else page).put
      ("\n".intercalate (block.lines level) ++ String.ofList (List.replicate block.ends '\n')) := by
  cases block <;> simp [write, Block.isSetOff, Block.lines, Block.ends, Block.isHeading, rowLine_eq,
    ruleLine_length, String.append_assoc]

/-- A block puts the gap and its own lines behind what is there. -/
theorem write_ofText {text : List Char} (solid : IsSolid text) (level : Nat)
    (earlier block : Block) :
    write level (.ofText text earlier.ends) block =
      .ofText (text ++ ended (gap earlier block ++ block.lines level)) block.ends := by
  have own := newline_cons_toList_intercalate (block.lines_ne_nil level)
  rw [write_eq, ended_append, ← own]
  by_cases setOff : block.isSetOff
  · rw [if_pos setOff, Page.setOff_ofText solid, Page.put_ofText]
    simp [gap, setOff, ended, List.replicate]
  · rw [if_neg setOff, Page.put_ofText]
    by_cases heading : earlier.isHeading <;>
      simp [gap, setOff, heading, ended, Block.ends, List.replicate]

theorem isSolid_append_block {block : Block} (plain : block.IsPlain) (level : Nat)
    (earlier : Block) (text : List Char) :
    IsSolid (text ++ ended (gap earlier block ++ block.lines level)) := by
  rw [ended_append, ← List.append_assoc]
  exact isSolid_append_ended (block.lines_ne_nil level)
    (fun line mem => Block.isSolid_of_mem_lines plain mem) _

theorem finish_foldl_write {text : List Char} (solid : IsSolid text) (level : Nat)
    (earlier : Block) {blocks : List Block} (plain : ∀ block ∈ blocks, block.IsPlain) :
    (blocks.foldl (write level) (.ofText text earlier.ends)).finish =
      String.ofList (text ++ ended (linesAfter level earlier blocks)) ++ "\n" := by
  induction blocks generalizing text earlier with
  | nil => simp [Page.finish_ofText solid, linesAfter, ended]
  | cons block blocks ih =>
    have first := isSolid_append_block (plain block (by simp)) level earlier text
    rw [List.foldl_cons, write_ofText solid, ih first block fun b mem => plain b (by simp [mem])]
    simp [linesAfter, ended_append]

theorem write_empty (level : Nat) (block : Block) : write level .empty block =
    .ofText ("\n".intercalate (block.lines level)).toList block.ends := by
  rw [write_eq, Page.setOff_empty, ite_self, Page.empty_eq_ofText, Page.put_ofText]
  simp

theorem render_eq_layout (level : Nat) {blocks : List Block}
    (plain : ∀ block ∈ blocks, block.IsPlain) :
    render level blocks = "\n".intercalate (layout level blocks) ++ "\n" := by
  cases blocks with
  | nil => simp [render, compose, layout, Page.finish, Page.text, Page.empty, single, strip]
  | cons block blocks =>
    have first := (plain block (by simp)).isSolid_lines level
    rw [render, compose, List.foldl_cons, write_empty, finish_foldl_write first level block
      fun b mem => plain b (by simp [mem]), layout,
      ← toList_intercalate_append (block.lines_ne_nil level), String.ofList_toList]

/-! ## Lines of a page -/

variable {level : Nat} {blocks : List Block}

theorem mem_linesAfter {line : String} {earlier : Block}
    (mem : line ∈ linesAfter level earlier blocks) :
    line = "" ∨ ∃ block ∈ blocks, line ∈ block.lines level := by
  induction blocks generalizing earlier with
  | nil => simp [linesAfter] at mem
  | cons block blocks ih =>
    rw [linesAfter, List.mem_append, List.mem_append] at mem
    rcases mem with (mem | mem) | mem
    · left
      unfold gap at mem
      split at mem <;> simp_all
    · exact .inr ⟨block, by simp, mem⟩
    · rcases ih mem with empty | ⟨later, listed, own⟩
      · exact .inl empty
      · exact .inr ⟨later, by simp [listed], own⟩

theorem not_mem_of_mem_layout (plain : ∀ block ∈ blocks, block.IsPlain) {line : String}
    (mem : line ∈ layout level blocks) : '\n' ∉ line.toList := by
  cases blocks with
  | nil => simp [layout] at mem
  | cons block blocks =>
    rcases List.mem_append.mp mem with own | later
    · exact Block.not_mem_of_mem_lines (plain block (by simp)) own
    · rcases mem_linesAfter later with rfl | ⟨later, listed, own⟩
      · simp
      · exact Block.not_mem_of_mem_lines (plain later (by simp [listed])) own

theorem isSolid_append_linesAfter {text : List Char} (solid : IsSolid text) (level : Nat)
    (earlier : Block) (plain : ∀ block ∈ blocks, block.IsPlain) :
    IsSolid (text ++ ended (linesAfter level earlier blocks)) := by
  induction blocks generalizing text earlier with
  | nil => simpa [linesAfter, ended] using solid
  | cons block blocks ih =>
    have first := isSolid_append_block (plain block (by simp)) level earlier text
    rw [linesAfter, ended_append, ← List.append_assoc]
    exact ih first block fun b mem => plain b (by simp [mem])

/-- The last line of a page is not empty. -/
theorem isSolid_layout (nonempty : blocks ≠ []) (plain : ∀ block ∈ blocks, block.IsPlain) :
    IsSolid ("\n".intercalate (layout level blocks)).toList := by
  cases blocks with
  | nil => exact absurd rfl nonempty
  | cons block blocks =>
    have first := (plain block (by simp)).isSolid_lines level
    rw [layout, toList_intercalate_append (block.lines_ne_nil level)]
    exact isSolid_append_linesAfter first level block fun b mem => plain b (by simp [mem])

/-- The first line of a page is not empty. -/
theorem head?_layout_ne (plain : ∀ block ∈ blocks, block.IsPlain) :
    (layout level blocks).head? ≠ some "" := by
  cases blocks with
  | nil => simp [layout]
  | cons block blocks =>
    obtain ⟨line, lines, eq⟩ := List.exists_cons_of_ne_nil (block.lines_ne_nil level)
    have first : line ∈ block.lines level := by simp [eq]
    have visible : line ≠ "" := Block.ne_empty_of_mem_lines (plain block (by simp)) first
    simpa [layout, eq] using visible

/-! ## The text of a page -/

end Lexicon.Markdown
