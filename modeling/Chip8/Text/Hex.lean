import Chip8.Word

/-!
# Upper-case hexadecimal

Messages, dumps and panels write numbers in upper-case hexadecimal, padded with zeros to a least
width.  A negative number is a minus sign and the digits of its size, and the sign takes one place
of the width.
-/

namespace Chip8.Hex

/-- The digit of value `d`: ten decimal digits, then the letters `A` to `F`. -/
def digit (d : Fin 16) : Char :=
  if d.val < 10 then Char.ofNat ('0'.toNat + d.val) else Char.ofNat ('A'.toNat + (d.val - 10))

/-- The digits of `n`, the most significant first; zero has the one digit `0`. -/
def digits (n : Nat) : List Char :=
  if n < 16 then [digit (Fin.ofNat 16 n)]
  else digits (n / 16) ++ [digit (Fin.ofNat 16 n)]

/-- The digits of `n` after as many zeros as `width` places need. -/
def paddedDigits (width n : Nat) : List Char := (digits n).leftpad width '0'

/-- The text of `z` in at least `width` places, a minus sign being one of them. -/
def padded (width : Nat) (z : Int) : String :=
  if z < 0 then String.ofList ('-' :: paddedDigits (width - 1) z.natAbs)
  else String.ofList (paddedDigits width z.natAbs)

/-- The two digits of a byte. -/
def byte (b : Byte) : List Char :=
  [digit (b.extractLsb' 4 4).toFin, digit (b.extractLsb' 0 4).toFin]

end Chip8.Hex
