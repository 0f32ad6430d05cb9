import Lexicon.LineEnd

/-!
# Markdown pages

A page is written block by block. Titles, sections, paragraphs and tables are set off by one empty
line from what precedes them; bullets and rows continue where the page ends. The page looks back
only at the line ends it has written last, so it keeps its text backwards.
-/

namespace Lexicon.Markdown

/-- A piece of a page. -/
inductive Block where
  | title (text : String)
  /-- A heading one level below the title. -/
  | heading (text : String)
  | paragraph (text : String)
  | bullet (text : String)
  /-- The head of a table and the line under it. -/
  | tableHead (cells : List String)
  | row (cells : List String)
  deriving DecidableEq

/-- What has been written so far, last character first. -/
structure Page where
  backwards : List Char
  deriving DecidableEq

namespace Page

def empty : Page := ⟨[]⟩

/-- Adds a text at the end. -/
def put (page : Page) (text : String) : Page := ⟨text.toList.reverse ++ page.backwards⟩

/-- Ends the page in one empty line, unless nothing has been written. -/
def setOff (page : Page) : Page :=
  if page.backwards.isEmpty then page
  else ⟨'\n' :: '\n' :: page.backwards.dropWhile (· = '\n')⟩

/-- What has been written. -/
def text (page : Page) : String := String.ofList page.backwards.reverse

/-- The finished text, which ends in one line end. -/
def finish (page : Page) : String := LineEnd.single page.text

end Page

/-- The marks in front of a heading of a level. -/
def marks (level : Nat) : String := String.ofList (List.replicate level '#')

/-- A text inside a cell, in which no bar ends the cell. -/
def escapeCell (text : String) : String :=
  String.ofList (text.toList.flatMap fun c => if c = '|' then ['\\', '|'] else [c])

/-- A row of a table, with a bar before the first cell and after each. -/
def rowLine (cells : List String) : String :=
  "|" ++ String.join (cells.map fun cell => " " ++ escapeCell cell ++ " |") ++ "\n"

/-- The line under the head of a table. -/
def ruleLine (columns : Nat) : String := rowLine (List.replicate columns "---")

/-- Writes a block at the end of a page whose title has the given level. -/
def write (level : Nat) (page : Page) : Block → Page
  | .title text => page.setOff.put (marks level ++ " " ++ text ++ "\n\n")
  | .heading text => page.setOff.put (marks (level + 1) ++ " " ++ text ++ "\n\n")
  | .paragraph text => page.setOff.put (text ++ "\n")
  | .bullet text => page.put ("- " ++ text ++ "\n")
  | .tableHead cells => (page.setOff.put (rowLine cells)).put (ruleLine cells.length)
  | .row cells => page.put (rowLine cells)

/-- The page of some blocks, one after the other. -/
def compose (level : Nat) (blocks : List Block) : Page := blocks.foldl (write level) .empty

/-- The text of the page of some blocks. -/
def render (level : Nat) (blocks : List Block) : String := (compose level blocks).finish

end Lexicon.Markdown
