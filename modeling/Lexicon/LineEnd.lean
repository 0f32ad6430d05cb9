/-!
# Line ends

Printed text ends in one line end, however many the text had.
-/

namespace Lexicon.LineEnd

/-- A text without the line ends at its end. -/
def strip (text : List Char) : List Char := (text.reverse.dropWhile (· = '\n')).reverse

/-- A text with one line end at its end. -/
def single (text : String) : String := String.ofList (strip text.toList) ++ "\n"

/-- What is printed for a text: nothing if it is empty, otherwise the text and one line end. -/
def printed (text : String) : String := if text.isEmpty then "" else single text

end Lexicon.LineEnd
