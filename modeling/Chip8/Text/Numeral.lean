import Chip8.Text.Blank
import Chip8.Text.Digit

/-!
# Integers as people type them

Blanks around, a sign, digits of any script, and single underscores between digits.
-/

namespace Chip8.Text

/-- The text without the blanks around it. -/
def trimBlanks (cs : List Char) : List Char :=
  ((cs.dropWhile isBlank).reverse.dropWhile isBlank).reverse

/-- Takes a sign off the front; `true` for a minus. -/
def takeSign : List Char → Bool × List Char
  | '-' :: cs => (true, cs)
  | '+' :: cs => (false, cs)
  | cs => (false, cs)

/-- The integer with a sign, `true` for a minus, and a size. -/
def signed (negative : Bool) (size : Nat) : Int := if negative then -size else size

/-- The number that digits stand for, the first digit counting most. -/
def valueOfDigits (digits : List Nat) : Nat := digits.foldl (fun n d => 10 * n + d) 0

/-- The most digits that an integer may have. -/
def maxDigits : Nat := 4300

/-- The values of the digits of a natural number.  An underscore must stand between two digits. -/
def readDigits? (cs : List Char) : Option (List Nat) :=
  let groups := cs.splitOn '_'
  if groups.any (·.isEmpty) then none else groups.flatten.mapM digitValue?

/-- Reads an integer. -/
def readInt? (s : String) : Option Int := do
  let (negative, cs) := takeSign (trimBlanks s.toList)
  let digits ← readDigits? cs
  guard (digits.length ≤ maxDigits)
  return signed negative (valueOfDigits digits)

end Chip8.Text
