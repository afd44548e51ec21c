import ModuleScript.Text.DigitTable
import ModuleScript.Text.WordTable

/-!
# Word characters and decimal digits

A word character is a letter or numeral of any script, or the low line.
-/

namespace ModuleScript.Text

/-- Letters `A` to `Z`. -/
def isAsciiUpper (c : Char) : Bool := 'A' ≤ c && c ≤ 'Z'

/-- Letters `a` to `z`. -/
def isAsciiLower (c : Char) : Bool := 'a' ≤ c && c ≤ 'z'

/-- Digits `0` to `9`. -/
def isAsciiDigit (c : Char) : Bool := '0' ≤ c && c ≤ '9'

/-- ASCII letters, ASCII digits and the low line. -/
def isAsciiWord (c : Char) : Bool := isAsciiUpper c || isAsciiLower c || isAsciiDigit c || c == '_'

/-- A letter or numeral of any script, or the low line. -/
def isWord (c : Char) : Bool := isAsciiWord c || wordTable.contains c

/-- A decimal digit of any script. -/
def isDigit (c : Char) : Bool := digitTable.contains c

end ModuleScript.Text
