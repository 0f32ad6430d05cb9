import Lexicon.Proofs.Markdown.Layout

/-!
# Pages only grow

Blocks that are set off trim the line ends they find, and finishing a page trims once more. Texts
may be empty or hold line ends anywhere, so there is no telling how many are found. Nothing else is
ever taken back, though: what carries this is the page without the line ends at its end, behind which
every block puts its own lines.

## Main statements

* `Markdown.exists_text_write`: what a page holds when a block has been written.
* `Markdown.strip_text_prefix_foldl_write`: blocks extend the page without its line ends.
* `Markdown.render_grows`: a finished page is the start of every longer one.
-/

namespace Lexicon.Markdown

open LineEnd

namespace Page

/-- Setting a block off changes the number of line ends at the end of the page only. -/
theorem exists_text_setOff (page : Page) :
    ∃ ends, page.setOff.text.toList = strip page.text.toList ++ List.replicate ends '\n' := by
  rw [setOff]
  split
  · exact exists_eq_strip_append page.text.toList
  · exact ⟨2, by simp [Page.text, strip, List.replicate]⟩

end Page

theorem exists_text_write (level : Nat) (page : Page) (block : Block) :
    ∃ ends, (write level page block).text.toList =
      strip page.text.toList ++ List.replicate ends '\n' ++
        ("\n".intercalate (block.lines level)).toList ++ List.replicate block.ends '\n' := by
  rw [write_eq, Page.text_put, String.toList_append, String.toList_append, String.toList_ofList,
    ← List.append_assoc]
  split
  · obtain ⟨ends, text⟩ := page.exists_text_setOff
    exact ⟨ends, by rw [text]⟩
  · obtain ⟨ends, text⟩ := exists_eq_strip_append page.text.toList
    exact ⟨ends, by rw [← text]⟩

theorem strip_text_prefix_write (level : Nat) (page : Page) (block : Block) :
    strip page.text.toList <+: strip (write level page block).text.toList := by
  obtain ⟨ends, text⟩ := exists_text_write level page block
  rw [text, List.append_assoc, List.append_assoc]
  simpa only [strip_strip] using strip_prefix_strip_append (strip page.text.toList) _

theorem strip_text_prefix_foldl_write (level : Nat) (page : Page) (blocks : List Block) :
    strip page.text.toList <+: strip (blocks.foldl (write level) page).text.toList := by
  induction blocks generalizing page with
  | nil => exact List.prefix_rfl
  | cons block blocks ih =>
    exact (strip_text_prefix_write level page block).trans (ih (write level page block))

variable (level : Nat) (blocks more : List Block)

/-- A page without the line end it is finished with. -/
def body : String := String.ofList (strip (compose level blocks).text.toList)

theorem render_eq_body : render level blocks = body level blocks ++ "\n" := rfl

theorem body_prefix_body_append :
    (body level blocks).toList <+: (body level (blocks ++ more)).toList := by
  rw [body, body, String.toList_ofList, String.toList_ofList, compose, compose, List.foldl_append]
  exact strip_text_prefix_foldl_write level _ more

theorem exists_render_concat (block : Block) :
    ∃ ends, render level (blocks ++ [block]) =
      single (body level blocks ++ String.ofList (List.replicate ends '\n') ++
        "\n".intercalate (block.lines level)) := by
  obtain ⟨ends, text⟩ := exists_text_write level (compose level blocks) block
  refine ⟨ends, ?_⟩
  rw [render, compose, List.foldl_append, ← compose, List.foldl_cons, List.foldl_nil, Page.finish,
    single, text, strip_append_replicate, single, body]
  simp

/-- A finished page ends in one line end. Without it, the page is the start of what it becomes when
more blocks are added, each of which puts its lines behind it; printing the page changes nothing. -/
theorem render_grows (level : Nat) (blocks more : List Block) :
    ∃ body : String, render level blocks = body ++ "\n" ∧ ¬['\n'] <:+ body.toList ∧
      body.toList <+: (render level (blocks ++ more)).toList ∧
      (∀ block, ∃ ends, render level (blocks ++ [block]) =
        single (body ++ String.ofList (List.replicate ends '\n') ++
          "\n".intercalate (block.lines level))) ∧
      printed (render level blocks) = render level blocks := by
  refine ⟨body level blocks, rfl, ?_, ?_, exists_render_concat level blocks, printed_single _⟩
  · rw [body, String.toList_ofList]
    exact not_suffix_strip _
  · rw [render_eq_body level (blocks ++ more), String.toList_append]
    exact (body_prefix_body_append level blocks more).trans (List.prefix_append ..)

end Lexicon.Markdown
