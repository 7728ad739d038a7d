import Chip8.Fault

/-!
# Memory

4096 byte cells.  Below `0x200` lies the system area with the font; programs are loaded from
`0x200` on.

An access names its first cell and its length by integers, since a caller may ask for anything.
`checkRange` is the one guard in front of every access: nothing wraps around, and an access that
does not fit faults before a cell is touched.  Behind the guard work two total functions,
`Memory.get` for one cell and `Memory.store` for consecutive cells, and the lemmas at the end say
what a cell holds after a store.
-/

namespace Chip8

/-- The number of cells. -/
def memorySize : Nat := 0x1000

/-- The cell where programs start. -/
def programStart : Nat := 0x200

/-- The number of cells that a program may fill. -/
def programCapacity : Nat := memorySize - programStart

/-- The contents of the memory. -/
structure Memory where
  /-- The cells, by address. -/
  cells : Vector Byte 4096
  deriving DecidableEq, Repr

namespace Memory

/-- The cell at `address`; zero where there is none. -/
def get (m : Memory) (address : Nat) : Byte :=
  if h : address < 4096 then m.cells[address] else 0

/-- Puts `value` into the cell at `address`; nothing happens where there is none. -/
def put (m : Memory) (address : Nat) (value : Byte) : Memory :=
  ⟨m.cells.setIfInBounds address value⟩

/-- The `length` cells from `address` on. -/
def slice (m : Memory) (address length : Nat) : List Byte :=
  (List.range length).map fun offset => m.get (address + offset)

/-- Puts the bytes into consecutive cells from `address` on. -/
def store (m : Memory) (address : Nat) : List Byte → Memory
  | [] => m
  | b :: bs => (m.put address b).store (address + 1) bs

/-! ### Guarded accesses -/

/-- Faults unless the `length` cells from `address` on exist.  The fault names the first cell if that
one is missing, and the last cell otherwise. -/
def checkRange (address length : Int) : Except Fault Unit :=
  if address < 0 ∨ memorySize ≤ address then
    .error (.outOfRange .memory address memorySize)
  else if memorySize ≤ address + length - 1 then
    .error (.outOfRange .memory (address + length - 1) memorySize)
  else .ok ()

/-- One cell. -/
def read8 (m : Memory) (address : Int) : Except Fault Byte := do
  checkRange address 1
  return m.get address.toNat

/-- The big-endian word in two consecutive cells. -/
def read16 (m : Memory) (address : Int) : Except Fault Word := do
  checkRange address 2
  return Word.ofBytes (m.get address.toNat) (m.get (address.toNat + 1))

/-- Puts the low eight bits of `value` into one cell. -/
def write8 (m : Memory) (address value : Int) : Except Fault Memory := do
  checkRange address 1
  return m.put address.toNat (Byte.ofInt value)

/-- Consecutive cells.  An empty block can be read anywhere, even outside the memory. -/
def readBlock (m : Memory) (address length : Int) : Except Fault (List Byte) :=
  if length ≤ 0 then .ok []
  else do
    checkRange address length
    return m.slice address.toNat length.toNat

/-- Puts bytes into consecutive cells: all of them, or none when they do not fit.  An empty block can
be written anywhere. -/
def writeBlock (m : Memory) (address : Int) (bytes : List Byte) : Except Fault Memory :=
  if bytes.isEmpty then .ok m
  else do
    checkRange address bytes.length
    return m.store address.toNat bytes

/-! ### What a cell holds after a store -/

theorem get_put (m : Memory) (address query : Nat) (value : Byte) :
    (m.put address value).get query =
      if address = query ∧ query < 4096 then value else m.get query := by
  unfold get put
  by_cases h : query < 4096
  · by_cases e : address = query <;> simp [h, e]
  · simp [h]

theorem get_store_of_outside (m : Memory) (address query : Nat) (bytes : List Byte)
    (outside : query < address ∨ address + bytes.length ≤ query) :
    (m.store address bytes).get query = m.get query := by
  induction bytes generalizing m address with
  | nil => rfl
  | cons b bs ih =>
    simp only [List.length_cons] at outside
    rw [store, ih _ _ (by omega), get_put, if_neg (by omega)]

theorem get_store_of_inside (m : Memory) (address offset : Nat) (bytes : List Byte)
    (inside : offset < bytes.length) (fits : address + bytes.length ≤ 4096) :
    (m.store address bytes).get (address + offset) = bytes[offset] := by
  induction bytes generalizing m address offset with
  | nil => simp at inside
  | cons b bs ih =>
    simp only [List.length_cons] at inside fits
    cases offset with
    | zero =>
      rw [store, get_store_of_outside _ _ _ _ (Or.inl (by omega)), get_put, if_pos (by omega)]
      rfl
    | succ offset =>
      rw [store, show address + (offset + 1) = address + 1 + offset by omega,
        ih _ _ _ (by omega) (by omega)]
      rfl

theorem length_slice (m : Memory) (address length : Nat) : (m.slice address length).length = length := by
  simp [slice]

end Memory

end Chip8
