import Chip8.Terminal.Display

/-!
# What a picture tells of the screen

A character of a picture stands for two pixels and there are four of them, so nothing is lost: from the
panel of a screen every pixel can be told, and screens with the same panel are the same but for the draw
flag.

`Screen.rowsOfPicture` does tell them.  It splits the text at the line ends and makes two rows of each line,
of what is lit in the upper halves of its characters and in the lower ones.
-/

namespace Chip8

theorem halfBlock_inj {upper lower upper' lower' : Bool} :
    halfBlock upper lower = halfBlock upper' lower' ↔ upper = upper' ∧ lower = lower' := by
  cases upper <;> cases lower <;> cases upper' <;> cases lower' <;> decide

namespace Screen

variable {s t : Screen}

/-- A line is told by the pixels of its two rows. -/
theorem halfBlockLine_eq_iff (r : Nat) :
    s.halfBlockLine r = t.halfBlockLine r ↔ ∀ x < 64,
      s.pixel x (2 * r) = t.pixel x (2 * r) ∧ s.pixel x (2 * r + 1) = t.pixel x (2 * r + 1) := by
  simp only [halfBlockLine, List.map_inj_left, List.mem_range, halfBlock_inj]

theorem halfBlocks_eq_iff :
    s.halfBlocks = t.halfBlocks ↔ ∀ r < 16, s.halfBlockLine r = t.halfBlockLine r := by
  simp only [halfBlocks, List.map_inj_left, List.mem_range, String.ofList_inj]

/-- The picture is told by all pixels. -/
theorem halfBlocks_eq_iff_pixel :
    s.halfBlocks = t.halfBlocks ↔ ∀ x < 64, ∀ y < 32, s.pixel x y = t.pixel x y := by
  rw [halfBlocks_eq_iff]
  constructor
  · intro same x inside y below
    obtain ⟨upper, lower⟩ := (halfBlockLine_eq_iff (y / 2)).mp (same _ (by omega)) x inside
    rcases Nat.mod_two_eq_zero_or_one y with even | odd
    · rwa [show 2 * (y / 2) = y by omega] at upper
    · rwa [show 2 * (y / 2) + 1 = y by omega] at lower
  · intro same r inside
    rw [halfBlockLine_eq_iff]
    exact fun x column => ⟨same x column _ (by omega), same x column _ (by omega)⟩

end Screen

/-! ### Reading a picture -/

/-- Whether a character is lit in its upper half. -/
def upperLit (c : Char) : Bool := c == '█' || c == '▀'

/-- Whether a character is lit in its lower half. -/
def lowerLit (c : Char) : Bool := c == '█' || c == '▄'

theorem upperLit_iff (c : Char) : upperLit c = true ↔ c = '█' ∨ c = '▀' := by simp [upperLit]

theorem lowerLit_iff (c : Char) : lowerLit c = true ↔ c = '█' ∨ c = '▄' := by simp [lowerLit]

theorem upperLit_halfBlock (upper lower : Bool) : upperLit (halfBlock upper lower) = upper := by
  cases upper <;> cases lower <;> decide

theorem lowerLit_halfBlock (upper lower : Bool) : lowerLit (halfBlock upper lower) = lower := by
  cases upper <;> cases lower <;> decide

theorem halfBlock_ne_newline (upper lower : Bool) : halfBlock upper lower ≠ '\n' := by
  cases upper <;> cases lower <;> decide

/-- The row of pixels that are lit as the list says, from column 0 on. -/
def PixelRow.ofLits (lits : List Bool) : PixelRow := (BitVec.ofBoolListBE lits).setWidth 64

theorem PixelRow.getMsbD_ofLits {lits : List Bool} (full : lits.length = 64) (x : Nat) :
    (ofLits lits).getMsbD x = lits.getD x false := by
  rw [ofLits, BitVec.getMsbD_setWidth, BitVec.getMsbD_ofBoolListBE, full, Nat.add_sub_cancel, Nat.sub_self,
    decide_eq_true (Nat.zero_le x), Bool.true_and]

namespace Screen

/-- The rows that a picture shows, from the top. -/
def rowsOfPicture (text : String) : List PixelRow :=
  (text.toList.splitOn '\n').flatMap fun line =>
    [PixelRow.ofLits (line.map upperLit), PixelRow.ofLits (line.map lowerLit)]

variable (s : Screen)

theorem length_halfBlockLine (r : Nat) : (s.halfBlockLine r).length = 64 := by
  rw [halfBlockLine, List.length_map, List.length_range]

theorem newline_not_mem_halfBlockLine (r : Nat) : '\n' ∉ s.halfBlockLine r := by
  intro member
  obtain ⟨x, -, newline⟩ := List.mem_map.mp member
  exact halfBlock_ne_newline _ _ newline

theorem toList_picture : s.picture.toList = ['\n'].intercalate ((List.range 16).map s.halfBlockLine) := by
  rw [picture, String.toList_intercalate, halfBlocks, List.map_map]
  simp only [Function.comp_def, String.toList_ofList]
  rfl

/-- At the line ends a picture comes apart into its lines. -/
theorem splitOn_picture : s.picture.toList.splitOn '\n' = (List.range 16).map s.halfBlockLine := by
  rw [toList_picture]
  refine List.splitOn_intercalate '\n' (fun line member => ?_) (by simp)
  obtain ⟨r, -, rfl⟩ := List.mem_map.mp member
  exact s.newline_not_mem_halfBlockLine r

/-- A list of pixels of a row is the row. -/
theorem ofLits_pixel (y : Nat) : PixelRow.ofLits ((List.range 64).map (s.pixel · y)) = s.row y := by
  refine BitVec.eq_of_getMsbD_eq fun x inside => ?_
  rw [PixelRow.getMsbD_ofLits (by simp), List.getD_eq_getElem?_getD, List.getElem?_map,
    List.getElem?_range inside]
  rfl

theorem rows_of_halfBlockLine (r : Nat) :
    PixelRow.ofLits ((s.halfBlockLine r).map upperLit) = s.row (2 * r) ∧
      PixelRow.ofLits ((s.halfBlockLine r).map lowerLit) = s.row (2 * r + 1) := by
  simp only [halfBlockLine, List.map_map, Function.comp_def, upperLit_halfBlock, lowerLit_halfBlock]
  exact ⟨s.ofLits_pixel _, s.ofLits_pixel _⟩

theorem toList_rows : s.rows.toList = (List.range 32).map s.row := by
  refine List.ext_getElem (by simp) fun y inside _ => ?_
  have below : y < 32 := by simpa using inside
  simp [row, below]

theorem rowsOfPicture_picture : rowsOfPicture s.picture = s.rows.toList := by
  have rows (r : Nat) : [PixelRow.ofLits ((s.halfBlockLine r).map upperLit),
      PixelRow.ofLits ((s.halfBlockLine r).map lowerLit)] = [s.row (2 * r), s.row (2 * r + 1)] := by
    obtain ⟨upper, lower⟩ := s.rows_of_halfBlockLine r
    rw [upper, lower]
  rw [rowsOfPicture, splitOn_picture, List.flatMap_map, toList_rows]
  simp only [rows]
  rfl

/-- Behind a line end at the end of a text, splitting leaves an empty piece. -/
theorem nil_mem_splitOn {text : List Char} (ended : text.getLast? = some '\n') : [] ∈ text.splitOn '\n' := by
  obtain ⟨front, rfl⟩ := List.getLast?_eq_some_iff.mp ended
  rw [List.splitOn_append_cons_self]
  exact List.mem_append_right _ List.mem_cons_self

theorem picture_eq_iff {s t : Screen} : s.picture = t.picture ↔ s.halfBlocks = t.halfBlocks := by
  constructor
  · intro same
    have lines := s.splitOn_picture
    rw [same, t.splitOn_picture] at lines
    rw [halfBlocks_eq_iff]
    exact fun r below => (List.map_inj_left.mp lines r (List.mem_range.mpr below)).symm
  · intro same
    rw [picture, picture, same]

/-- A picture is sixteen lines of 64 characters with line ends between them and none behind the last.  A
pixel in an even row is lit exactly if its character is a full block or an upper half, a pixel in an odd row exactly
if it is a full block or a lower half.  So the rows can be told from the picture, and the pictures of two screens are
the same exactly if all pixels are. -/
theorem picture_is_lossless :
    let lines := s.picture.toList.splitOn '\n'
    lines.length = 16 ∧ s.picture.toList.getLast? ≠ some '\n' ∧
    (∀ r < 16, ∃ cs, lines[r]? = some cs ∧ cs.length = 64 ∧ ∀ x < 64, ∃ c, cs[x]? = some c ∧
      (s.pixel x (2 * r) = true ↔ c = '█' ∨ c = '▀') ∧
      (s.pixel x (2 * r + 1) = true ↔ c = '█' ∨ c = '▄')) ∧
    rowsOfPicture s.picture = s.rows.toList ∧
    ∀ t : Screen, s.picture = t.picture ↔ ∀ x < 64, ∀ y < 32, s.pixel x y = t.pixel x y := by
  intro lines
  have split : lines = (List.range 16).map s.halfBlockLine := s.splitOn_picture
  refine ⟨?_, fun ended => ?_, fun r below => ?_, s.rowsOfPicture_picture,
    fun t => picture_eq_iff.trans halfBlocks_eq_iff_pixel⟩
  · rw [split, List.length_map, List.length_range]
  · have empty : [] ∈ lines := nil_mem_splitOn ended
    rw [split] at empty
    obtain ⟨r, -, none⟩ := List.mem_map.mp empty
    have full := s.length_halfBlockLine r
    rw [none, List.length_nil] at full
    omega
  · refine ⟨s.halfBlockLine r, ?_, s.length_halfBlockLine r, fun x inside => ?_⟩
    · rw [split, List.getElem?_map, List.getElem?_range below, Option.map_some]
    · refine ⟨halfBlock (s.pixel x (2 * r)) (s.pixel x (2 * r + 1)), ?_, ?_, ?_⟩
      · rw [halfBlockLine, List.getElem?_map, List.getElem?_range inside, Option.map_some]
      · rw [← upperLit_iff, upperLit_halfBlock]
      · rw [← lowerLit_iff, lowerLit_halfBlock]

end Screen

/-- Screens with the same panel have the same pixels. -/
theorem screenPanel_eq_iff {s t : Screen} :
    screenPanel s = screenPanel t ↔ ∀ x < 64, ∀ y < 32, s.pixel x y = t.pixel x y := by
  rw [← Screen.halfBlocks_eq_iff_pixel, ← Screen.picture_eq_iff]
  simp [screenPanel]

end Chip8
