import Chip8.Text.Numeral

/-!
# Decimal fractions as people type them

Blanks around, a sign, digits of any script with a point among or beside them, an exponent, and single
underscores between digits; or one of the words for infinity and for no number.
-/

namespace Chip8.Text

/-- A decimal fraction. -/
inductive Decimal where
  /-- The number `digits * 10 ^ exponent`. -/
  | finite (digits exponent : Int)
  | infinite (negative : Bool)
  | notANumber
  deriving DecidableEq, Repr

/-- Drops the underscores, each of which must stand between two digits.  `before` is the character in
front. -/
def dropUnderscores? (before : Char) : List Char → Option (List Char)
  | [] => some []
  | '_' :: c :: cs => if isDigit before && isDigit c then (dropUnderscores? c cs).map (c :: ·) else none
  | '_' :: [] => none
  | c :: cs => (dropUnderscores? c cs).map (c :: ·)

/-- The number that a text of digits stands for; there must be a digit. -/
def readSize? (cs : List Char) : Option Nat :=
  if cs.isEmpty then none else (cs.mapM digitValue?).map valueOfDigits

/-- Reads an exponent; an empty text is the exponent zero. -/
def readExponent? : List Char → Option Int
  | [] => some 0
  | mark :: cs =>
    if mark == 'e' || mark == 'E' then
      let (negative, digits) := takeSign cs
      (readSize? digits).map (signed negative)
    else none

/-- The digits in front of the point, those behind it, and what follows the number. -/
def splitPoint (cs : List Char) : List Char × List Char × List Char :=
  match cs.dropWhile isDigit with
  | '.' :: rest => (cs.takeWhile isDigit, rest.takeWhile isDigit, rest.dropWhile isDigit)
  | rest => (cs.takeWhile isDigit, [], rest)

/-- Reads a number without a sign; its digits, the point left out, and its exponent. -/
def readUnsigned? (cs : List Char) : Option (Nat × Int) := do
  let (whole, fraction, rest) := splitPoint cs
  let digits ← readSize? (whole ++ fraction)
  let exponent ← readExponent? rest
  return (digits, exponent - fraction.length)

/-- Reads a decimal fraction. -/
def readDecimal? (s : String) : Option Decimal := do
  let (negative, cs) := takeSign (← dropUnderscores? ' ' (trimBlanks s.toList))
  match String.ofList (cs.map Char.toLower) with
  | "inf" | "infinity" => return .infinite negative
  | "nan" => return .notANumber
  | _ =>
    let (digits, exponent) ← readUnsigned? cs
    return .finite (signed negative digits) exponent

end Chip8.Text
