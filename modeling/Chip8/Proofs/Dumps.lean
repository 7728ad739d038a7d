import Mathlib.Order.Nat
import Chip8.Memory.Dump
import Chip8.Proofs.Accesses

/-!
# Reading a dump

A dump is cut into lines, and every line begins with the address of its first byte.  `Memory.readDump?` reads the
lines back, without knowing how long they are meant to be, and finds every byte with its address
(`Memory.readDump?_dump`).  So nothing is lost, and dumps are the same exactly if the cells are.
-/

namespace Chip8

/-! ### Digits -/

namespace Hex

/-- The sixteen digits in their order. -/
def alphabet : List Char :=
  ['0', '1', '2', '3', '4', '5', '6', '7', '8', '9', 'A', 'B', 'C', 'D', 'E', 'F']

/-- The last `width` digits of a number, zeros in front included. -/
def places : (width n : Nat) → List Char
  | 0, _ => []
  | width + 1, n => places width (n / 16) ++ [alphabet.getD (n % 16) '0']

/-- The value of a digit. -/
def value? (c : Char) : Option Nat := alphabet.idxOf? c

/-- The number that digits spell. -/
def number? (cs : List Char) : Option Nat :=
  cs.foldlM (fun n c => (value? c).map (16 * n + ·)) 0

theorem digit_eq : ∀ d : Fin 16, digit d = alphabet.getD d.val '0' := by decide

theorem value?_digit : ∀ d < 16, value? (alphabet.getD d '0') = some d := by decide

theorem pow_succ_sixteen (width : Nat) : Nat.pow 16 (width + 1) = 16 * Nat.pow 16 width :=
  Nat.mul_comm (Nat.pow 16 width) 16

/-- As many digits as there are places tell a number up to what does not fit them. -/
theorem number?_places (width n : Nat) : number? (places width n) = some (n % Nat.pow 16 width) := by
  induction width generalizing n with
  | zero => exact (congrArg some (Nat.mod_one n)).symm
  | succ width ih =>
    have front : (places width (n / 16)).foldlM (fun n c => (value? c).map (16 * n + ·)) 0 =
        some (n / 16 % Nat.pow 16 width) := ih (n / 16)
    have last := value?_digit (n % 16) (Nat.mod_lt n (by decide))
    rw [places, number?, List.foldlM_append, front]
    simp only [Option.bind_eq_bind, Option.bind_some, List.foldlM_cons, List.foldlM_nil, last,
      Option.map_some, Option.pure_def, Option.some.injEq]
    rw [pow_succ_sixteen, Nat.mod_mul]
    omega

theorem mem_alphabet_of_mem_places {width n : Nat} {c : Char} (h : c ∈ places width n) : c ∈ alphabet := by
  induction width generalizing n with
  | zero => cases h
  | succ width ih =>
    rcases List.mem_append.mp h with front | last
    · exact ih front
    · have all : ∀ d < 16, alphabet.getD d '0' ∈ alphabet := by decide
      rw [List.mem_singleton.mp last]
      exact all _ (Nat.mod_lt n (by decide))

theorem places_zero (width : Nat) : places width 0 = List.replicate width '0' := by
  induction width with
  | zero => rfl
  | succ width ih => rw [places, Nat.zero_div, ih, List.replicate_succ']; rfl

theorem paddedDigits_of_lt (width : Nat) {n : Nat} (small : n < 16) :
    paddedDigits (width + 1) n = places (width + 1) n := by
  have last : digit (Fin.ofNat 16 n) = alphabet.getD (n % 16) '0' := digit_eq _
  rw [paddedDigits, digits, if_pos small, places, Nat.div_eq_of_lt small, places_zero, last]
  rfl

theorem paddedDigits_of_le (width : Nat) {n : Nat} (large : 16 ≤ n) :
    paddedDigits (width + 1) n = paddedDigits width (n / 16) ++ [digit (Fin.ofNat 16 n)] := by
  rw [paddedDigits, digits, if_neg (by omega), paddedDigits, List.leftpad, List.leftpad,
    List.length_append, List.length_singleton, Nat.add_sub_add_right, List.append_assoc]

/-- Where the digits of a number have room, filling up with zeros comes to all of the places. -/
theorem paddedDigits_eq_places {width n : Nat} (room : n < Nat.pow 16 (width + 1)) :
    paddedDigits (width + 1) n = places (width + 1) n := by
  induction width generalizing n with
  | zero => exact paddedDigits_of_lt 0 room
  | succ width ih =>
    rcases Nat.lt_or_ge n 16 with small | large
    · exact paddedDigits_of_lt _ small
    · have front : n / 16 < Nat.pow 16 (width + 1) :=
        Nat.div_lt_of_lt_mul (pow_succ_sixteen (width + 1) ▸ room)
      have last : digit (Fin.ofNat 16 n) = alphabet.getD (n % 16) '0' := digit_eq _
      rw [paddedDigits_of_le _ large, ih front, last]
      rfl

theorem byte_eq_places (b : Byte) : byte b = places 2 b.toNat := by
  have bound := b.isLt
  have high : (b.extractLsb' 4 4).toFin.val = b.toNat / 16 % 16 := by
    rw [BitVec.val_toFin, BitVec.extractLsb'_toNat, Nat.shiftRight_eq_div_pow]
  have low : (b.extractLsb' 0 4).toFin.val = b.toNat % 16 := by
    rw [BitVec.val_toFin, BitVec.extractLsb'_toNat, Nat.shiftRight_zero]
  rw [byte, digit_eq, digit_eq, high, low]
  rfl

end Hex

/-! ### Pieces -/

section

variable {α : Type} {size : Nat} {xs : List α}

theorem chunks_nil (size : Nat) : chunks size ([] : List α) = [] := by
  cases size <;> rw [chunks]

theorem chunks_of_ne_nil (positive : 0 < size) (nonempty : xs ≠ []) :
    chunks size xs = xs.take size :: chunks size (xs.drop size) := by
  cases size with
  | zero => exact absurd positive (Nat.lt_irrefl 0)
  | succ k =>
    cases xs with
    | nil => exact absurd rfl nonempty
    | cons x xs =>
      rw [chunks]
      rfl

theorem flatten_chunks (positive : 0 < size) (xs : List α) : (chunks size xs).flatten = xs := by
  induction size, xs using chunks.induct with
  | case1 => exact absurd positive (Nat.lt_irrefl 0)
  | case2 => rw [chunks_nil, List.flatten_nil]
  | case3 k x xs ih =>
    rw [chunks_of_ne_nil positive (List.cons_ne_nil x xs), List.flatten_cons, List.drop_succ_cons,
      ih positive]
    exact List.take_append_drop (k + 1) (x :: xs)

theorem ne_nil_of_mem_chunks {piece : List α} (member : piece ∈ chunks size xs) : piece ≠ [] := by
  induction size, xs using chunks.induct with
  | case1 =>
    rw [chunks] at member
    cases member
  | case2 =>
    rw [chunks_nil] at member
    cases member
  | case3 k x xs ih =>
    rw [chunks] at member
    rcases List.mem_cons.mp member with rfl | later
    · exact List.cons_ne_nil _ _
    · exact ih later

end

namespace Memory

/-- Each line begins where a multiple of the width has been passed. -/
theorem getElem?_dumpLines {width : Nat} (positive : 0 < width) (address j : Nat) (bytes : List Byte) :
    (dumpLines address (chunks width bytes))[j]? =
      if j * width < bytes.length then
        some (dumpLine (address + j * width) ((bytes.drop (j * width)).take width))
      else none := by
  induction j generalizing address bytes with
  | zero =>
    rw [Nat.zero_mul]
    rcases List.eq_nil_or_concat bytes with rfl | ⟨_, _, rfl⟩
    · rw [chunks_nil]
      rfl
    · rw [chunks_of_ne_nil positive (by simp), if_pos (by simp)]
      rfl
  | succ j ih =>
    by_cases none : bytes = []
    · rw [none, chunks_nil, List.length_nil, if_neg (Nat.not_lt_zero _)]
      rfl
    · have next : (j + 1) * width = width + j * width := by rw [Nat.succ_mul, Nat.add_comm]
      rw [chunks_of_ne_nil positive none, dumpLines, List.getElem?_cons_succ, ih, List.length_drop,
        List.length_take, List.drop_drop, next]
      by_cases inside : width + j * width < bytes.length
      · rw [if_pos inside, if_pos (by omega), Nat.min_eq_left (by omega), Nat.add_assoc]
      · rw [if_neg inside, if_neg (by omega)]

/-! ### Lines -/

/-- The bytes of a line in two digits each. -/
theorem toList_dumpLine {address : Nat} (fits : address < 0x1000) (bytes : List Byte) :
    (dumpLine address bytes).toList = Hex.places 3 address ++ ':' :: ' ' ::
      [' '].intercalate (bytes.map fun b => Hex.places 2 b.toNat) := by
  have digits : Hex.byte = fun b => Hex.places 2 b.toNat := funext Hex.byte_eq_places
  rw [dumpLine, String.toList_ofList, Hex.paddedDigits_eq_places fits, digits]

/-- Blanks between pieces and one in front come to a blank in front of each. -/
theorem blank_intercalate {α : Type} (f : α → List Char) {xs : List α} (nonempty : xs ≠ []) :
    ' ' :: [' '].intercalate (xs.map f) = xs.flatMap fun x => ' ' :: f x := by
  induction xs with
  | nil => exact absurd rfl nonempty
  | cons x rest ih =>
    cases rest with
    | nil => simp
    | cons y rest =>
      rw [List.map_cons, List.map_cons, List.intercalate_cons_cons, List.flatMap_cons,
        ← ih (List.cons_ne_nil y rest), List.map_cons, List.append_assoc, List.cons_append]
      rfl

theorem newline_not_mem_dumpLine {address : Nat} (fits : address < 0x1000) {bytes : List Byte}
    (nonempty : bytes ≠ []) : '\n' ∉ (dumpLine address bytes).toList := by
  have noDigit {width n : Nat} : '\n' ∉ Hex.places width n := fun member =>
    absurd (Hex.mem_alphabet_of_mem_places member) (by decide)
  rw [toList_dumpLine fits, blank_intercalate _ nonempty]
  intro member
  rcases List.mem_append.mp member with front | member
  · exact noDigit front
  · rcases List.mem_cons.mp member with colon | member
    · exact absurd colon (by decide)
    · obtain ⟨b, -, member⟩ := List.mem_flatMap.mp member
      rcases List.mem_cons.mp member with blank | member
      · exact absurd blank (by decide)
      · exact noDigit member

/-- Reads the bytes of a line: a blank and two digits for each. -/
def readBytes? : List Char → Option (List Byte)
  | [] => some []
  | ' ' :: high :: low :: rest =>
    (Hex.number? [high, low]).bind fun n => (readBytes? rest).map (BitVec.ofNat 8 n :: ·)
  | _ => none

/-- Reads a line: its address in three digits, a colon, and bytes, which lie at that address and behind. -/
def readLine? : List Char → Option (List (Byte × Nat))
  | a :: b :: c :: ':' :: rest =>
    (Hex.number? [a, b, c]).bind fun address => (readBytes? rest).map (·.zipIdx address)
  | _ => none

/-- Reads a dump: the bytes in it, each with its address. -/
def readDump? (text : String) : Option (List (Byte × Nat)) :=
  ((text.toList.splitOn '\n').mapM readLine?).map List.flatten

theorem readBytes?_places (bytes : List Byte) :
    readBytes? (bytes.flatMap fun b => ' ' :: Hex.places 2 b.toNat) = some bytes := by
  induction bytes with
  | nil => rfl
  | cons b rest ih =>
    have digits : Hex.number? (Hex.places 2 b.toNat) = some (b.toNat % 256) := Hex.number?_places 2 b.toNat
    rw [Nat.mod_eq_of_lt b.isLt] at digits
    have first (tail : List Char) : readBytes? ((' ' :: Hex.places 2 b.toNat) ++ tail) =
        (Hex.number? (Hex.places 2 b.toNat)).bind fun n =>
          (readBytes? tail).map (BitVec.ofNat 8 n :: ·) := rfl
    rw [List.flatMap_cons, first, digits, Option.bind_some, ih, Option.map_some, BitVec.ofNat_toNat,
      BitVec.setWidth_eq]

/-- A line is read back as its bytes with their addresses. -/
theorem readLine?_dumpLine {address : Nat} (fits : address < 0x1000) {bytes : List Byte}
    (nonempty : bytes ≠ []) :
    readLine? (dumpLine address bytes).toList = some (bytes.zipIdx address) := by
  have digits : Hex.number? (Hex.places 3 address) = some (address % 0x1000) := Hex.number?_places 3 address
  rw [Nat.mod_eq_of_lt fits] at digits
  have label (tail : List Char) : readLine? (Hex.places 3 address ++ ':' :: tail) =
      (Hex.number? (Hex.places 3 address)).bind fun address =>
        (readBytes? tail).map (·.zipIdx address) := rfl
  rw [toList_dumpLine fits, blank_intercalate _ nonempty, label, digits, Option.bind_some, readBytes?_places,
    Option.map_some]

/-! ### Dumps -/

/-- The lines are read back, whatever the pieces. -/
theorem mapM_readLine?_dumpLines (address : Nat) {pieces : List (List Byte)}
    (full : ∀ piece ∈ pieces, piece ≠ []) (fits : address + pieces.flatten.length ≤ 0x1000) :
    (((dumpLines address pieces).map String.toList).mapM readLine?).map List.flatten =
      some (pieces.flatten.zipIdx address) := by
  induction pieces generalizing address with
  | nil => rfl
  | cons piece rest ih =>
    have here := full piece List.mem_cons_self
    have positive := List.length_pos_iff.mpr here
    rw [List.flatten_cons, List.length_append] at fits
    have line := readLine?_dumpLine (show address < 0x1000 by omega) here
    have later := ih (address + piece.length)
      (fun other member => full other (List.mem_cons_of_mem _ member)) (by omega)
    obtain ⟨groups, read, joined⟩ := Option.map_eq_some_iff.mp later
    rw [dumpLines, List.map_cons, List.mapM_cons, line, read, List.flatten_cons, List.zipIdx_append,
      ← joined]
    rfl

section

variable (m : Memory) {start size width : Nat}

/-- A dump of what lies in the memory succeeds, and is the lines of its pieces. -/
theorem dump_of_fits (fits : start + size ≤ 0x1000) (positive : 0 < width) :
    m.dump start size width =
      .ok ("\n".intercalate (dumpLines start (chunks width (m.slice start size)))) := by
  rw [dump, m.readBlock_of_fits (.inr fits)]
  dsimp only
  rw [if_neg (by omega), Int.toNat_natCast, Int.toNat_natCast]

theorem take_drop_slice (start size skip width : Nat) :
    ((m.slice start size).drop skip).take width =
      (List.range' (start + skip) (min width (size - skip))).map m.get := by
  unfold slice
  refine List.ext_getElem (by simp) fun k _ _ => ?_
  simp [Nat.add_assoc]

/-- The lines of the dump of a stretch of memory. -/
theorem getElem?_dumpLines_slice (positive : 0 < width) (j : Nat) :
    (dumpLines start (chunks width (m.slice start size)))[j]? =
      if j * width < size then
        some (dumpLine (start + j * width)
          ((List.range' (start + j * width) (min width (size - j * width))).map m.get))
      else none := by
  rw [getElem?_dumpLines positive, m.length_slice, m.take_drop_slice]

/-- There is a line for each multiple of the width below the size. -/
theorem lt_length_dumpLines_iff (positive : 0 < width) (j : Nat) :
    j < (dumpLines start (chunks width (m.slice start size))).length ↔ j * width < size := by
  rw [← Nat.not_le, ← List.getElem?_eq_none_iff, m.getElem?_dumpLines_slice positive]
  split
  · next inside => exact iff_of_true (fun none => nomatch none) inside
  · next outside => exact iff_of_false (fun found => found rfl) outside

/-- The last line may be shorter than the others. -/
theorem length_dumpLines (positive : 0 < width) :
    (dumpLines start (chunks width (m.slice start size))).length = (size + width - 1) / width := by
  refine eq_of_forall_lt_iff fun j => ?_
  have whole : j + 1 ≤ (size + width - 1) / width ↔ (j + 1) * width ≤ size + width - 1 :=
    Nat.le_div_iff_mul_le positive
  rw [Nat.succ_mul] at whole
  rw [m.lt_length_dumpLines_iff positive]
  omega

/-- At the line ends a dump comes apart into its lines. -/
theorem splitOn_dump (nonempty : 0 < size) (fits : start + size ≤ 0x1000) (positive : 0 < width) :
    ("\n".intercalate (dumpLines start (chunks width (m.slice start size)))).toList.splitOn '\n' =
      (dumpLines start (chunks width (m.slice start size))).map String.toList := by
  rw [String.toList_intercalate]
  refine List.splitOn_intercalate '\n' (fun line member => ?_) fun none => ?_
  · obtain ⟨text, among, rfl⟩ := List.mem_map.mp member
    obtain ⟨j, found⟩ := List.getElem?_of_mem among
    rw [m.getElem?_dumpLines_slice positive] at found
    split at found
    · next inside =>
      cases found
      refine newline_not_mem_dumpLine (by omega) fun none => ?_
      have count := congrArg List.length none
      rw [List.length_map, List.length_range', List.length_nil] at count
      omega
    · cases found
  · have first : 0 < (dumpLines start (chunks width (m.slice start size))).length :=
      (m.lt_length_dumpLines_iff positive 0).mpr (by rwa [Nat.zero_mul])
    rw [List.map_eq_nil_iff.mp none] at first
    exact absurd first (Nat.not_lt_zero 0)

/-- A dump is read back as what was dumped, with the addresses. -/
theorem readDump?_dump (nonempty : 0 < size) (fits : start + size ≤ 0x1000) (positive : 0 < width) :
    readDump? ("\n".intercalate (dumpLines start (chunks width (m.slice start size)))) =
      some ((m.slice start size).zipIdx start) := by
  have whole := flatten_chunks positive (m.slice start size)
  have lines := mapM_readLine?_dumpLines start (fun _ => ne_nil_of_mem_chunks)
    (by rwa [whole, m.length_slice])
  rw [whole] at lines
  rw [readDump?, m.splitOn_dump nonempty fits positive, lines]

end

/-- Memory that fits is dumped in as many lines as are needed.  Each line has the address of its first byte in
three digits, a colon and a blank, and its bytes in two digits each with blanks between them: as many bytes as a line
holds, and in the last line what is left.  All the bytes can be read back with their addresses, so two dumps of one
shape are the same exactly if the bytes are. -/
theorem dump_is_faithful (m : Memory) {start size width : Nat} (nonempty : 0 < size)
    (fits : start + size ≤ 0x1000) (positive : 0 < width) :
    ∃ text bytes, m.dump start size width = .ok text ∧ m.readBlock start size = .ok bytes ∧
      let lines := text.toList.splitOn '\n'
      lines.length = (size + width - 1) / width ∧
      (∀ j (inside : j < lines.length),
        let first := start + j * width
        let stop := min (start + (j + 1) * width) (start + size)
        lines[j] = Hex.places 3 first ++ ':' :: ' ' ::
          [' '].intercalate ((List.range' first (stop - first)).map fun a =>
            Hex.places 2 (m.get a).toNat)) ∧
      readDump? text = some (bytes.zipIdx start) ∧
      ∀ m' : Memory, m'.dump start size width = m.dump start size width ↔
        m'.readBlock start size = m.readBlock start size := by
  have read (m : Memory) : m.readBlock start size = .ok (m.slice start size) :=
    m.readBlock_of_fits (.inr fits)
  refine ⟨_, _, m.dump_of_fits fits positive, read m, ?_, ?_, m.readDump?_dump nonempty fits positive,
    fun m' => ⟨fun same => ?_, ?_⟩⟩
  · rw [m.splitOn_dump nonempty fits positive, List.length_map]
    exact m.length_dumpLines positive
  · intro j inside first stop
    have split := m.splitOn_dump nonempty fits positive
    have below : j * width < size := by
      rw [split, List.length_map] at inside
      exact (m.lt_length_dumpLines_iff positive j).mp inside
    have next : (j + 1) * width = j * width + width := Nat.succ_mul j width
    have count : stop - first = min width (size - j * width) := by omega
    have found := congrArg (·[j]?) split
    simp only [List.getElem?_map, m.getElem?_dumpLines_slice positive, if_pos below, Option.map_some] at found
    obtain ⟨_, line⟩ := List.getElem?_eq_some_iff.mp found
    rw [line, toList_dumpLine (by omega), List.map_map, count]
    rfl
  · rw [m.dump_of_fits fits positive, m'.dump_of_fits fits positive] at same
    have pairs := (m'.readDump?_dump nonempty fits positive).symm.trans
      ((congrArg readDump? (Except.ok.inj same)).trans (m.readDump?_dump nonempty fits positive))
    have bytes := congrArg (List.map Prod.fst) (Option.some.inj pairs)
    rw [List.zipIdx_map_fst, List.zipIdx_map_fst] at bytes
    rw [read, read, bytes]
  · intro same
    rw [dump, dump, same]

/-- The last five cells in pairs: the third line has one byte. -/
theorem dump_is_faithful_end :
    let m := Memory.store ⟨Vector.replicate 4096 0⟩ 0xFFB [0x0A, 0xFF, 0x1B, 0xE0, 0x30]
    ∃ text, m.dump 0xFFB 5 2 = .ok text ∧
      text.toList.splitOn '\n' = ["FFB: 0A FF".toList, "FFD: 1B E0".toList, "FFF: 30".toList] ∧
      readDump? text = some [(0x0A, 0xFFB), (0xFF, 0xFFC), (0x1B, 0xFFD), (0xE0, 0xFFE), (0x30, 0xFFF)] := by
  have cells : let m := Memory.store ⟨Vector.replicate 4096 0⟩ 0xFFB [0x0A, 0xFF, 0x1B, 0xE0, 0x30]
      m.slice 0xFFB 5 = [0x0A, 0xFF, 0x1B, 0xE0, 0x30] := slice_store _ (by decide)
  generalize Memory.store ⟨Vector.replicate 4096 0⟩ 0xFFB [0x0A, 0xFF, 0x1B, 0xE0, 0x30] = m at cells ⊢
  dsimp only at cells ⊢
  obtain ⟨text, bytes, dumped, read, count, each, back, -⟩ :=
    m.dump_is_faithful (show 0 < 5 by decide) (show 0xFFB + 5 ≤ 0x1000 by decide) (show 0 < 2 by decide)
  have block : m.readBlock (0xFFB : Nat) (5 : Nat) = .ok (m.slice 0xFFB 5) :=
    m.readBlock_of_fits (.inr (by decide))
  refine ⟨text, dumped, ?_, ?_⟩
  · match lines : text.toList.splitOn '\n', count with
    | [a, b, c], _ =>
      obtain ⟨h0, h1, h2, h3, h4⟩ : m.get 0xFFB = 0x0A ∧ m.get 0xFFC = 0xFF ∧ m.get 0xFFD = 0x1B ∧
          m.get 0xFFE = 0xE0 ∧ m.get 0xFFF = 0x30 := by
        simpa [slice, List.range_succ] using cells
      simp only [lines] at each
      have first : a = Hex.places 3 0xFFB ++ ':' :: ' ' :: [' '].intercalate
          ([m.get 0xFFB, m.get 0xFFC].map fun b => Hex.places 2 b.toNat) := each 0 (by simp)
      have second : b = Hex.places 3 0xFFD ++ ':' :: ' ' :: [' '].intercalate
          ([m.get 0xFFD, m.get 0xFFE].map fun b => Hex.places 2 b.toNat) := each 1 (by simp)
      have third : c = Hex.places 3 0xFFF ++ ':' :: ' ' :: [' '].intercalate
          ([m.get 0xFFF].map fun b => Hex.places 2 b.toNat) := each 2 (by simp)
      rw [first, second, third, h0, h1, h2, h3, h4]
      rfl
  · rw [back, Except.ok.inj (read.symm.trans block), cells]
    rfl

end Memory

end Chip8
