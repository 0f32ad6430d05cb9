import Lexicon.Markdown.Page
import Lexicon.Proofs.LineEnd

/-!
# Line ends at the end of a page

A page that has been written to is a solid text and some line ends behind it. Setting a block off
changes the number of these line ends only, and finishing the page leaves one.
-/

namespace Lexicon.Markdown

open LineEnd

namespace Page

/-- The page of a text with some line ends behind it. -/
def ofText (text : List Char) (ends : Nat) : Page :=
  ⟨List.replicate ends '\n' ++ text.reverse⟩

variable {text : List Char}

theorem empty_eq_ofText : empty = ofText [] 0 := rfl

@[simp] theorem setOff_empty : empty.setOff = empty := rfl

@[simp] theorem toList_text_ofText (text : List Char) (ends : Nat) :
    (ofText text ends).text.toList = text ++ List.replicate ends '\n' := by
  simp [Page.text, ofText]

@[simp] theorem put_put (page : Page) (first second : String) :
    (page.put first).put second = page.put (first ++ second) := by
  simp [put]

theorem text_put (page : Page) (text : String) : (page.put text).text = page.text ++ text := by
  simp [Page.text, put]

theorem put_ofText (text : List Char) (ends : Nat) (line : String) (more : Nat) :
    (ofText text ends).put (line ++ String.ofList (List.replicate more '\n')) =
      ofText (text ++ List.replicate ends '\n' ++ line.toList) more := by
  simp [put, ofText]

theorem setOff_ofText (solid : IsSolid text) (ends : Nat) :
    (ofText text ends).setOff = ofText text 2 := by
  obtain ⟨before, last, rfl, visible⟩ := solid
  simp [setOff, ofText, visible, List.replicate]

theorem finish_ofText (solid : IsSolid text) (ends : Nat) :
    (ofText text ends).finish = String.ofList text ++ "\n" := by
  rw [finish, single, toList_text_ofText, strip_append_replicate, solid.strip_eq]

end Page

theorem render_ne_empty (level : Nat) (blocks : List Block) : render level blocks ≠ "" :=
  single_ne_empty _

end Lexicon.Markdown
