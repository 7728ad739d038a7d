import Chip8.Error

/-!
# Hex dumps

A dump shows a stretch of memory in lines of equally many bytes: the address of the first byte in at
least three digits, a colon, and the bytes in two digits each, all separated by single blanks.
-/

namespace Chip8

/-- Cuts a list into consecutive pieces of `size` elements, the last one maybe shorter.  With size
zero there are no pieces. -/
def chunks {α : Type} : Nat → List α → List (List α)
  | 0, _ => []
  | _ + 1, [] => []
  | k + 1, x :: xs => (x :: xs.take k) :: chunks (k + 1) (xs.drop k)
termination_by _ xs => xs.length
decreasing_by
  simp only [List.length_drop, List.length_cons]
  omega

namespace Memory

/-- One line: the address and the bytes from there on. -/
def dumpLine (address : Nat) (bytes : List Byte) : String :=
  String.ofList
    (Hex.paddedDigits 3 address ++ ':' :: ' ' :: List.intercalate [' '] (bytes.map Hex.byte))

/-- The lines for pieces of memory that follow each other from `address` on. -/
def dumpLines (address : Nat) : List (List Byte) → List String
  | [] => []
  | piece :: rest => dumpLine address piece :: dumpLines (address + piece.length) rest

/-- The dump of `length` cells from `address` on, `perLine` bytes to a line.  The cells are looked up
first, so a missing cell wins over a line width of zero; a negative line width gives no lines. -/
def dump (m : Memory) (address length perLine : Int) : Except Error String :=
  match m.readBlock address length with
  | .error cause => .error (.fault cause)
  | .ok bytes =>
    if perLine = 0 then .error (.misuse .zeroLineWidth)
    else .ok ("\n".intercalate (dumpLines address.toNat (chunks perLine.toNat bytes)))

end Memory

end Chip8
