/-!
# Decimal numerals

A numeral is one optional plus sign and at least one ASCII digit. Leading zeros are allowed and do
not count against the limit, which is on the value alone.
-/

namespace Lexicon.Decimal

/-- The digits of a numeral, without its sign. -/
def unsigned : List Char → List Char
  | '+' :: digits => digits
  | digits => digits

/-- Value of a numeral, if the text is one and its value is at most `limit`. -/
def read? (limit : Nat) (text : String) : Option Nat :=
  let digits := unsigned text.toList
  if digits ≠ [] ∧ digits.all Char.isDigit then
    let value := Nat.ofDigitChars 10 digits 0
    if value ≤ limit then some value else none
  else
    none

end Lexicon.Decimal
