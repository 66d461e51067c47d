import Rulebook.Text.Lowercase
import Rulebook.Text.WordTable

/-!
# Letters and numerals

A letter is a character with the property Alphabetic; a numeral is one of the categories of numbers.
-/

namespace Rulebook.Text

/-- Is the character alphabetic or numeric? -/
def isLetterOrNumeral (c : Char) : Bool := c.isAlphanum || inRanges wordRanges c.toNat

example : isLetterOrNumeral 'é' = true ∧ isLetterOrNumeral '½' = true := by decide +kernel
example : isLetterOrNumeral '，' = false ∧ isLetterOrNumeral '\u0301' = false := by decide +kernel

end Rulebook.Text
