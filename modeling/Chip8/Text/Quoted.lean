import Chip8.Text.Hex
import Chip8.Text.Printable

/-!
# Quoted text

Messages quote the names they speak of.  The quote is a single one, unless the text holds single
quotes and no double ones.  The backslash and the quote itself get a backslash in front, line ends and
tabs have letters, and every other character that does not show is written by its code point in two,
four or eight lower-case hexadecimal digits.
-/

namespace Chip8.Text

/-- The quote that goes around a text. -/
def quoteFor (cs : List Char) : Char :=
  if cs.contains '\'' && !cs.contains '"' then '"' else '\''

/-- A code point in at least `width` lower-case digits. -/
def codePoint (width : Nat) (c : Char) : List Char :=
  (Hex.paddedDigits width c.toNat).map Char.toLower

/-- How a character is written between quotes. -/
def quoteChar (quote c : Char) : List Char :=
  if c = quote ∨ c = '\\' then ['\\', c]
  else if c = '\n' then ['\\', 'n']
  else if c = '\r' then ['\\', 'r']
  else if c = '\t' then ['\\', 't']
  else if isPrintable c then [c]
  else if c.toNat < 0x100 then '\\' :: 'x' :: codePoint 2 c
  else if c.toNat < 0x10000 then '\\' :: 'u' :: codePoint 4 c
  else '\\' :: 'U' :: codePoint 8 c

/-- A text between quotes. -/
def quoted (s : String) : String :=
  let cs := s.toList
  let quote := quoteFor cs
  String.ofList (quote :: cs.flatMap (quoteChar quote) ++ [quote])

end Chip8.Text
