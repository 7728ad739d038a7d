import Chip8.Proofs.Panels

/-!
# Panels on a plain console

A plain console sets a panel in lines (`Panel.lines`): it wraps texts, squeezes tables and crops what sticks
out.  Where there is room for all that the panel holds, nothing of that happens, and each line of the panel
stands as it is between the borders of the box (`Panel.box_of_narrow`).

So the lines that are printed of a session are known character by character (`Session.Printed.lines_eq`): the
sixteen lines of its screen, and the lines about its processor.
-/

namespace Chip8

namespace Text

variable {cs : List Char} {width : Nat}

theorem fitCells_of_narrow (narrow : Narrow cs) (fits : cs.length ≤ width) : fitCells width cs = cs := by
  rw [fitCells, if_pos]
  rwa [cellCount_of_narrow narrow]

/-- A line that fits keeps the blanks at its end. -/
theorem fitLine_of_narrow (narrow : Narrow cs) (fits : cs.length ≤ width) : fitLine width cs = cs := by
  have none : cs.length - width = 0 := Nat.sub_eq_zero_of_le fits
  simp only [fitLine, none, Nat.min_zero, Nat.sub_zero, List.take_length]
  exact fitCells_of_narrow narrow fits

/-- The glyphs of a text that is all in one part. -/
def evenGlyphs (cs : List Char) : List Glyph := cs.map (⟨·, false⟩)

@[simp] theorem map_char_evenGlyphs (cs : List Char) : (evenGlyphs cs).map Glyph.char = cs := by
  rw [evenGlyphs, List.map_map]
  exact List.map_id _

theorem opens_evenGlyphs : ∀ g ∈ evenGlyphs cs, g.opens = false :=
  List.forall_mem_map.mpr fun _ _ => rfl

/-- In a text without styles no part begins. -/
theorem glyphs_of_unstyled (cs : List Char) : Styled.glyphs ⟨cs, []⟩ = evenGlyphs cs := by
  have go (i : Nat) (afterTab : Bool) (rest : List Char) :
      Styled.glyphs.go ⟨cs, []⟩ i afterTab rest = evenGlyphs rest := by
    induction rest generalizing i afterTab with
    | nil => rfl
    | cons c rest ih =>
      rw [Styled.glyphs.go, ih]
      rfl
  exact go 0 false cs

theorem splitOnP_evenGlyphs (cs : List Char) :
    (evenGlyphs cs).splitOnP (·.char == '\n') = (cs.splitOn '\n').map evenGlyphs := by
  rw [List.splitOn_eq_splitOnP]
  induction cs with
  | nil => rfl
  | cons c cs ih =>
    show List.splitOnP _ ((⟨c, false⟩ : Glyph) :: evenGlyphs cs) = _
    rw [List.splitOnP_cons_eq_if_modifyHead, List.splitOnP_cons_eq_if_modifyHead, ih]
    split
    · rfl
    · cases cs.splitOnP (· == '\n') <;> rfl

/-- A line without styles is one part. -/
theorem parts_evenGlyphs (some : cs ≠ []) : parts (evenGlyphs cs) = [cs] := by
  obtain ⟨c, cs, rfl⟩ := List.exists_cons_of_ne_nil some
  have one : (evenGlyphs (c :: cs)).splitBy (fun _ next => !next.opens) = [evenGlyphs (c :: cs)] :=
    List.splitBy_of_isChain (List.cons_ne_nil _ _) (isChain_of_opens opens_evenGlyphs _)
  rw [parts, one, List.map_singleton, map_char_evenGlyphs]

/-- A text without styles is printed line by line, where its lines fit. -/
theorem wrap_of_narrow (narrow : ∀ line ∈ cs.splitOn '\n', Narrow line)
    (fits : ∀ line ∈ cs.splitOn '\n', line.length ≤ width) :
    wrap width ⟨cs, []⟩ = (cs.splitOn '\n').map String.ofList := by
  rw [wrap, glyphs_of_unstyled, splitOnP_evenGlyphs, List.flatMap_map, List.map_flatMap,
    ← List.flatMap_pure_eq_map]
  -- Each line goes through all that is done to it as it is.
  refine List.flatMap_congr fun line member => ?_
  have narrow := narrow line member
  have fits : cellCount line ≤ width := by
    rw [cellCount_of_narrow narrow]
    exact fits line member
  have usual : ∀ g ∈ evenGlyphs line, isUsual g.char = true := List.forall_mem_map.mpr narrow.usual
  have noTabs : expandTabs (evenGlyphs line) [] = evenGlyphs line :=
    expandTabs_of_forall (fun g inside => ne_of_isUsual (usual g inside) (by decide)) []
  have oneLine : wrapLine width (evenGlyphs line) = [evenGlyphs line] :=
    wrapLine_of_fits usual (by rwa [map_char_evenGlyphs])
  have stays : fitGlyphs width (evenGlyphs line) = evenGlyphs line := by
    apply fitGlyphs_of_fits
    rw [map_char_evenGlyphs]
    exact fitLine_of_narrow narrow (by rwa [← cellCount_of_narrow narrow])
  rw [noTabs, oneLine, List.map_singleton, stays]
  by_cases some : line = []
  · subst some
    rfl
  · have printed : printParts width [line] = line := by
      rw [printParts, if_pos (by simpa using fits), List.flatten_singleton]
    rw [parts_evenGlyphs some, printed]
    rfl

theorem newline_not_mem_of_narrow (narrow : Narrow cs) : '\n' ∉ cs :=
  fun member => absurd (narrow.usual _ member) (by decide)

end Text

open Text (Narrow isNarrow narrow_append narrow_cons narrow_nil narrow_of_ascii narrow_padded
  narrow_replicate narrow_toString)

/-! ### Boxes -/

variable {width : Nat}

theorem exactly_of_narrow {cs : List Char} (narrow : Narrow cs) (fits : cs.length ≤ width) :
    exactly width cs = cs ++ List.replicate (width - cs.length) ' ' := by
  rw [exactly, Text.fitCells_of_narrow narrow fits, Text.cellCount_of_narrow narrow]

/-- The blank, the pieces of boxes and the half blocks take one cell each. -/
theorem isNarrow_drawn :
    ∀ c ∈ [' ', '─', '│', '╭', '╮', '╰', '╯', '▀', '▄', '█'], isNarrow c = true :=
  List.all_eq_true.mp (by decide +kernel)

theorem isNarrow_blank : isNarrow ' ' = true := isNarrow_drawn _ (by decide)

/-- Texts that fit appear as they are, one below the other. -/
theorem Block.lines_of_plain {spans : List Span} {rows : List String} (some : rows ≠ [])
    (text : plain spans = "\n".intercalate rows) (narrow : ∀ row ∈ rows, Narrow row.toList)
    (fits : ∀ row ∈ rows, row.toList.length ≤ width) :
    Block.lines width (.text spans) = rows.map String.toList := by
  have split : (plain spans).toList.splitOn '\n' = rows.map String.toList := by
    rw [text, String.toList_intercalate]
    refine List.splitOn_intercalate '\n' (fun row member => ?_) (by simpa using some)
    obtain ⟨row, known, rfl⟩ := List.mem_map.mp member
    exact Text.newline_not_mem_of_narrow (narrow row known)
  rw [Block.lines, Text.wrap_of_narrow, split]
  · simp [Function.comp_def]
  · rw [split]
    exact List.forall_mem_map.mpr narrow
  · rw [split]
    exact List.forall_mem_map.mpr fits

namespace Panel

/-- The upper edge of a box with room for its title. -/
def titled (width : Nat) (title : List Char) : List Char :=
  let free := width - 6 - title.length
  '╭' :: edge (free / 2 + 1) ++ ' ' :: title ++ ' ' :: edge (free - free / 2 + 1) ++ ['╮']

/-- A line of a box with room for the text, which is filled up with blanks. -/
def bordered (width : Nat) (text : List Char) : List Char :=
  '│' :: ' ' :: text ++ List.replicate (width - 4 - text.length) ' ' ++ [' ', '│']

/-- A box with a title in its upper edge and room for all that it holds. -/
def boxed (width : Nat) (title : String) (rows : List (List Char)) : List String :=
  String.ofList (titled width title.toList) :: rows.map (fun row => String.ofList (bordered width row)) ++
    [String.ofList (bottom width)]

theorem narrow_edge (n : Nat) : Narrow (edge n) := narrow_replicate (isNarrow_drawn _ (by decide)) n

/-- A title that fits stands in the middle of the upper edge. -/
theorem top_of_narrow {title : Span} (narrow : Narrow title.text.toList)
    (room : title.text.toList.length + 6 ≤ width) :
    Text.fitCells width (top (some title) width) = titled width title.text.toList := by
  have corners : isNarrow '╭' = true ∧ isNarrow '╮' = true :=
    ⟨isNarrow_drawn _ (by decide), isNarrow_drawn _ (by decide)⟩
  have label : Narrow (' ' :: title.text.toList ++ [' ']) := by
    simp only [narrow_append, narrow_cons, isNarrow_blank, narrow, narrow_nil, and_self]
  have size : (' ' :: title.text.toList ++ [' ']).length = title.text.toList.length + 2 := by simp
  have whole : Text.fitCells (width - 4) (' ' :: title.text.toList ++ [' ']) = _ :=
    Text.fitCells_of_narrow label (by omega)
  have top : top (some title) width = titled width title.text.toList := by
    have free : width - 4 - (title.text.toList.length + 2) = width - 6 - title.text.toList.length := by omega
    have shown : 4 < width := by omega
    rw [top, Option.filter_some, if_pos (decide_eq_true shown)]
    dsimp only
    rw [whole, Text.cellCount_of_narrow label, size, free, Nat.add_comm 1]
    simp [titled]
  rw [top]
  apply Text.fitCells_of_narrow
  · simp only [titled, narrow_append, narrow_cons, narrow_edge, narrow, isNarrow_blank, corners, narrow_nil,
      and_self]
  · simp only [titled, List.length_append, List.length_cons, List.length_nil, edge, List.length_replicate]
    omega

/-- A line that fits stands between the borders. -/
theorem line_of_narrow {row : List Char} (narrow : Narrow row) (room : row.length + 4 ≤ width) :
    Text.fitCells width (line width row) = bordered width row := by
  have border : isNarrow '│' = true := isNarrow_drawn _ (by decide)
  have blanks (n : Nat) : Narrow (List.replicate n ' ') := narrow_replicate isNarrow_blank n
  have filled : Narrow (' ' :: (row ++ List.replicate (width - 4 - row.length) ' ')) := by
    simp only [narrow_cons, narrow_append, isNarrow_blank, narrow, blanks, and_self]
  have size : (' ' :: (row ++ List.replicate (width - 4 - row.length) ' ')).length = width - 3 := by
    simp only [List.length_cons, List.length_append, List.length_replicate]
    omega
  have line : line width row = bordered width row := by
    rw [line, exactly_of_narrow narrow (by omega), exactly_of_narrow filled (by omega), size,
      show width - 2 - (width - 3) = 1 by omega]
    simp [bordered]
  rw [line]
  apply Text.fitCells_of_narrow
  · simp only [bordered, narrow_append, narrow_cons, narrow, blanks, isNarrow_blank, border, narrow_nil,
      and_self]
  · simp only [bordered, List.length_append, List.length_cons, List.length_nil, List.length_replicate]
    omega

theorem fitCells_bottom (room : 2 ≤ width) : Text.fitCells width (bottom width) = bottom width := by
  have corners : isNarrow '╰' = true ∧ isNarrow '╯' = true :=
    ⟨isNarrow_drawn _ (by decide), isNarrow_drawn _ (by decide)⟩
  apply Text.fitCells_of_narrow
  · simp only [bottom, narrow_append, narrow_cons, narrow_edge, corners, narrow_nil, and_self]
  · simp only [bottom, List.length_append, List.length_cons, List.length_nil, edge, List.length_replicate]
    omega

/-- Nothing is cropped in a box with room for its title and its lines. -/
theorem box_of_narrow {p : Panel} {title : Span} (headed : p.title = some title)
    (narrowTitle : Narrow title.text.toList) (wide : title.text.toList.length + 6 ≤ width)
    {rows : List (List Char)} (narrow : ∀ row ∈ rows, Narrow row)
    (room : ∀ row ∈ rows, row.length + 4 ≤ width) : p.box width rows = boxed width title.text rows := by
  have middle : rows.map (fun row => String.ofList (Text.fitCells width (line width row))) =
      rows.map fun row => String.ofList (bordered width row) :=
    List.map_congr_left fun row member =>
      congrArg String.ofList (line_of_narrow (narrow row member) (room row member))
  rw [box, headed, boxed, ← middle, ← top_of_narrow narrowTitle wide,
    ← fitCells_bottom (show 2 ≤ width by omega)]
  simp [Function.comp_def, fitCells_bottom (show 2 ≤ width by omega)]

/-! ### The screen -/

variable {p : Panel}

theorem narrow_halfBlock (upper lower : Bool) : isNarrow (halfBlock upper lower) = true := by
  cases upper <;> cases lower <;> exact isNarrow_drawn _ (by decide)

theorem narrow_halfBlockLine (s : Screen) (r : Nat) : Narrow (s.halfBlockLine r) := by
  intro c member
  obtain ⟨x, -, rfl⟩ := List.mem_map.mp member
  exact narrow_halfBlock _ _

theorem plain_picture (s : Screen) (style : String) : Block.plain [⟨s.picture, style⟩] = s.picture := by
  apply String.toList_inj.mp
  simp [Block.plain]

/-- The lines of a picture are equally long. -/
theorem size_picture (s : Screen) (style : String) : Block.size (.text [⟨s.picture, style⟩]) = 64 := by
  have cells : (List.range 16).map (Text.cellCount ∘ s.halfBlockLine) = List.replicate 16 64 :=
    List.map_eq_replicate_iff.mpr fun r _ =>
      (Text.cellCount_of_narrow (narrow_halfBlockLine s r)).trans (s.length_halfBlockLine r)
  rw [Block.size, plain_picture, s.splitOn_picture, List.map_map, cells]
  rfl

theorem lines_picture (s : Screen) (style : String) :
    Block.lines 64 (.text [⟨s.picture, style⟩]) = (List.range 16).map s.halfBlockLine := by
  have whole : Block.lines 64 (.text [⟨s.picture, style⟩]) = s.halfBlocks.map String.toList := by
    refine Block.lines_of_plain (List.cons_ne_nil _ _) (plain_picture s style) ?_ ?_
    · refine List.forall_mem_map.mpr fun r _ => ?_
      rw [String.toList_ofList]
      exact narrow_halfBlockLine s r
    · refine List.forall_mem_map.mpr fun r _ => ?_
      rw [String.toList_ofList, s.length_halfBlockLine]
  rw [whole, Screen.halfBlocks, List.map_map]
  simp only [Function.comp_def, String.toList_ofList]

/-- On a plain console with room for it, the screen appears line by line in a box. -/
theorem lines_of_showsScreen {s : Screen} (shows : p.ShowsScreen s) (room : 68 ≤ width) :
    p.lines width = boxed 68 "CHIP-8" ((List.range 16).map fun r =>
      (List.range 64).map fun x => halfBlock (s.pixel x (2 * r)) (s.pixel x (2 * r + 1))) := by
  obtain ⟨headed, fills, style, body⟩ := shows
  replace body : p.body = [.text [⟨s.picture, style⟩]] := body
  have wide : p.boxWidth width = 68 := by
    have label : Text.cellCount "CHIP-8".toList = 6 := Text.cellCount_of_ascii (by decide)
    simp only [boxWidth, body, headed, fills, List.map_singleton, size_picture, Option.elim_some, label]
    exact Nat.min_eq_right room
  have inside : p.inside 68 = (List.range 16).map s.halfBlockLine := by
    rw [Panel.inside, if_neg (by decide), body, List.flatMap_singleton, lines_picture]
  rw [Panel.lines, wide, inside]
  refine box_of_narrow headed (narrow_of_ascii (by decide)) (by decide) ?_ ?_
  · exact List.forall_mem_map.mpr fun r _ => narrow_halfBlockLine s r
  · refine List.forall_mem_map.mpr fun r _ => ?_
    rw [s.length_halfBlockLine]

end Panel

/-! ### The processor -/

/-- The line of the table with the registers `2 * k` and `2 * k + 1`. -/
def Machine.registerLine (m : Machine) (k : Nat) : String :=
  "  V" ++ Hex.padded 1 (2 * k : Nat) ++
    "     0x" ++ Hex.padded 2 (m.v (Register.ofNat (2 * k))).toNat ++
    "     V" ++ Hex.padded 1 (2 * k + 1 : Nat) ++
    "     0x" ++ Hex.padded 2 (m.v (Register.ofNat (2 * k + 1))).toNat ++ "    "

/-- The lines of the table of the registers. -/
def Machine.registerLines (m : Machine) : List String :=
  ["", "  Reg    Value    Reg    Value   ", " ─────────────────────────────── "] ++
    (List.range 8).map m.registerLine ++ [""]

/-- The line about the last fault, and one in front of it. -/
def Session.faultLines (s : Session) : List String :=
  s.lastFault.elim [] fun cause => ["", cause.message]

/-- The lines about the processor. -/
def Session.processorLines (s : Session) : List String :=
  s.machine.numberLines ++ s.machine.registerLines ++ keyLines ++ s.faultLines

namespace Table

/-- A word that fits is not cut off. -/
theorem cell_of_narrow {word : String} (narrow : Narrow word.toList)
    (room : word.toList.length + 2 ≤ width) :
    cell width word =
      ' ' :: word.toList ++ List.replicate (width - 2 - word.toList.length) ' ' ++ [' '] := by
  have blanks (n : Nat) : Narrow (List.replicate n ' ') := narrow_replicate isNarrow_blank n
  have seen : seen (width - 2) word = word.toList := by
    unfold seen
    split
    next none => exact (List.eq_nil_of_length_eq_zero (by omega)).symm
    next => exact if_pos (by rw [Text.cellCount_of_narrow narrow]; omega)
  have size : (' ' :: (word.toList ++ List.replicate (width - 2 - word.toList.length) ' ') ++ [' ']).length =
      width := by
    simp only [List.cons_append, List.length_cons, List.length_append, List.length_replicate, List.length_nil]
    omega
  rw [cell, seen, exactly_of_narrow narrow (by omega), exactly_of_narrow _ size.le, size, Nat.sub_self]
  · simp
  · simp only [List.cons_append, narrow_cons, narrow_append, narrow, blanks, isNarrow_blank, narrow_nil,
      and_self]

/-- The columns have their own widths where there is room for all of them. -/
theorem widths_of_columns {t : Table} (columns : t.columns.map Column.width = [4, 6, 4, 6])
    (room : 33 ≤ width) : t.widths width = [6, 8, 6, 8] := by
  have count : t.columns.length = 4 := by simpa using congrArg List.length columns
  have four : max 1 (min (4 + 2) (width - 5)) = 6 := by omega
  have six : max 1 (min (6 + 2) (width - 5)) = 8 := by omega
  have wanted : t.columns.map (fun c => max 1 (min (c.width + 2) (width - 5))) = [6, 8, 6, 8] := by
    have each := congrArg (List.map fun n => max 1 (min (n + 2) (width - 5))) columns
    rwa [List.map_map, List.map_cons, List.map_cons, List.map_cons, List.map_cons, four, six] at each
  -- Where the columns together fit, nothing is taken away from them.
  have left : [6, 8, 6, 8].foldl (· + ·) 0 - (width - 5) = 0 := by
    show 28 - (width - 5) = 0
    omega
  rw [widths, count, wanted, left]
  rfl

/-- The cells of the names and the values are filled up to the widths of their columns. -/
theorem row_of_registers {name value name' value' : String}
    (names : Narrow name.toList ∧ name.toList.length = 2 ∧
      Narrow name'.toList ∧ name'.toList.length = 2)
    (values : Narrow value.toList ∧ value.toList.length = 4 ∧
      Narrow value'.toList ∧ value'.toList.length = 4) :
    row [6, 8, 6, 8] [name, value, name', value'] =
      ("  " ++ name ++ "     " ++ value ++ "     " ++ name' ++ "     " ++ value' ++ "    ").toList := by
  obtain ⟨narrow₁, size₁, narrow₃, size₃⟩ := names
  obtain ⟨narrow₂, size₂, narrow₄, size₄⟩ := values
  simp [row, cell_of_narrow, narrow₁, narrow₂, narrow₃, narrow₄, size₁, size₂, size₃, size₄,
    List.replicate, List.intercalate]

theorem narrow_registerName {n : Nat} (inside : n < 16) :
    Narrow ("V" ++ Hex.padded 1 n).toList ∧ ("V" ++ Hex.padded 1 n).toList.length = 2 := by
  have one : ∀ x : Fin 16, ("V" ++ Hex.padded 1 x.val).toList.length = 2 := by decide +kernel
  refine ⟨?_, one ⟨n, inside⟩⟩
  rw [String.toList_append, narrow_append]
  exact ⟨narrow_of_ascii (by decide), narrow_padded 1 n⟩

theorem narrow_registerValue (b : Byte) :
    Narrow ("0x" ++ Hex.padded 2 b.toNat).toList ∧ ("0x" ++ Hex.padded 2 b.toNat).toList.length = 4 := by
  constructor
  · rw [String.toList_append, narrow_append]
    exact ⟨narrow_of_ascii (by decide), narrow_padded 2 _⟩
  · simp [← Hex.byte_eq_padded, Hex.byte]

theorem row_registerWords (m : Machine) {k : Nat} (inside : k < 8) :
    row [6, 8, 6, 8] (m.registerWords k) = (m.registerLine k).toList := by
  obtain ⟨left, leftSize⟩ := narrow_registerName (show 2 * k < 16 by omega)
  obtain ⟨right, rightSize⟩ := narrow_registerName (show 2 * k + 1 < 16 by omega)
  obtain ⟨first, firstSize⟩ := narrow_registerValue (m.v (Register.ofNat (2 * k)))
  obtain ⟨second, secondSize⟩ := narrow_registerValue (m.v (Register.ofNat (2 * k + 1)))
  rw [Machine.registerWords,
    row_of_registers ⟨left, leftSize, right, rightSize⟩ ⟨first, firstSize, second, secondSize⟩]
  simp [Machine.registerLine]

/-- The table of the registers appears line by line. -/
theorem lines_of_registers {t : Table} {m : Machine}
    (columns : t.columns.map (fun c => (c.head, c.width)) =
      [("Reg", 4), ("Value", 6), ("Reg", 4), ("Value", 6)])
    (rows : t.rows = (List.range 8).map m.registerWords) (room : 33 ≤ width) :
    t.lines width = m.registerLines.map String.toList := by
  have heads : t.columns.map Column.head = ["Reg", "Value", "Reg", "Value"] := by
    have firsts := congrArg (List.map Prod.fst) columns
    rwa [List.map_map] at firsts
  have widths : t.widths width = [6, 8, 6, 8] := by
    have seconds := congrArg (List.map Prod.snd) columns
    rw [List.map_map] at seconds
    exact widths_of_columns seconds room
  have upper : row [6, 8, 6, 8] ["Reg", "Value", "Reg", "Value"] =
      "  Reg    Value    Reg    Value   ".toList := by
    have reg : cell 6 "Reg" = " Reg  ".toList := by
      rw [cell_of_narrow (narrow_of_ascii (by decide)) (by decide)]
      rfl
    have value : cell 8 "Value" = " Value  ".toList := by
      rw [cell_of_narrow (narrow_of_ascii (by decide)) (by decide)]
      rfl
    simp only [row, List.zipWith_cons_cons, List.zipWith_nil_right, reg, value]
    rfl
  have middle : ((List.range 8).map m.registerWords).map (row [6, 8, 6, 8]) =
      ((List.range 8).map m.registerLine).map String.toList := by
    rw [List.map_map, List.map_map]
    exact List.map_congr_left fun k member => row_registerWords m (List.mem_range.mp member)
  rw [lines, widths, heads, rows, Machine.registerLines, upper, middle, List.map_append, List.map_append]
  rfl

end Table

namespace Panel

variable {p : Panel}

theorem narrow_numberLines (m : Machine) : ∀ line ∈ m.numberLines, Narrow line.toList := by
  have number (n : Nat) : Narrow (toString n).toList := narrow_toString n
  have pc : Narrow "PC: 0x".toList := narrow_of_ascii (by decide)
  have index : Narrow "  I: 0x".toList := narrow_of_ascii (by decide)
  have depth : Narrow "  SP: ".toList := narrow_of_ascii (by decide)
  have delay : Narrow "DT: ".toList := narrow_of_ascii (by decide)
  have sound : Narrow "  ST: ".toList := narrow_of_ascii (by decide)
  have count : Narrow "Instructions: ".toList := narrow_of_ascii (by decide)
  simp only [Machine.numberLines, List.forall_mem_cons, String.toList_append, narrow_append, number,
    narrow_padded, pc, index, depth, delay, sound, count, and_self, true_and]
  exact List.forall_mem_nil _

theorem narrow_registerLine (m : Machine) (k : Nat) : Narrow (m.registerLine k).toList := by
  have left : Narrow "  V".toList := narrow_of_ascii (by decide)
  have right : Narrow "     V".toList := narrow_of_ascii (by decide)
  have value : Narrow "     0x".toList := narrow_of_ascii (by decide)
  have close : Narrow "    ".toList := narrow_of_ascii (by decide)
  simp only [Machine.registerLine, String.toList_append, narrow_append, narrow_padded, left, right, value,
    close, and_self]

theorem narrow_registerLines (m : Machine) : ∀ line ∈ m.registerLines, Narrow line.toList := by
  have rule : " ─────────────────────────────── ".toList = ' ' :: (edge 31 ++ [' ']) := rfl
  simp only [Machine.registerLines, List.forall_mem_append, List.forall_mem_cons, List.forall_mem_map, rule,
    narrow_cons, narrow_append, narrow_edge, isNarrow_blank, true_and]
  exact ⟨⟨⟨narrow_nil, narrow_of_ascii (by decide), narrow_nil, List.forall_mem_nil _⟩,
    fun k _ => narrow_registerLine m k⟩, narrow_nil, List.forall_mem_nil _⟩

theorem narrow_keyLines : ∀ line ∈ keyLines, Narrow line.toList := by
  have ascii : keyLines.all (·.toList.all Text.isAscii) = true := by decide
  exact fun line member => narrow_of_ascii (List.all_eq_true.mp ascii line member)

/-- Only a name from elsewhere may put other characters into the wording of a fault. -/
theorem narrow_message {cause : Fault}
    (named : ∀ name index limit, cause = .outOfRange (.other name) index limit → Narrow name.toList) :
    Narrow cause.message.toList := by
  have place : Narrow " at PC=0x".toList := narrow_of_ascii (by decide)
  cases cause with
  | invalidOpcode word address =>
    have front : Narrow "Invalid opcode: 0x".toList := narrow_of_ascii (by decide)
    cases address with
    | none =>
      show Narrow ("Invalid opcode: 0x" ++ Hex.padded 4 word).toList
      simp only [String.toList_append, narrow_append, front, narrow_padded, and_self]
    | some address =>
      show Narrow ("Invalid opcode: 0x" ++ Hex.padded 4 word ++ " at PC=0x" ++
        Hex.padded 3 address).toList
      simp only [String.toList_append, narrow_append, front, place, narrow_padded, and_self]
  | stackOverflow address depth =>
    have front : Narrow "Stack overflow: call depth exceeds ".toList := narrow_of_ascii (by decide)
    show Narrow ("Stack overflow: call depth exceeds " ++ toString depth ++ " at PC=0x" ++
      Hex.padded 3 address).toList
    simp only [String.toList_append, narrow_append, front, place, narrow_padded, narrow_toString, and_self]
  | stackUnderflow address =>
    have front : Narrow "Stack underflow: return with empty stack at PC=0x".toList :=
      narrow_of_ascii (by decide)
    show Narrow ("Stack underflow: return with empty stack at PC=0x" ++ Hex.padded 3 address).toList
    simp only [String.toList_append, narrow_append, front, narrow_padded, and_self]
  | outOfRange area index limit =>
    have front : Narrow "Out of range ".toList := narrow_of_ascii (by decide)
    have name : Narrow area.name.toList := by
      cases area with
      | other name => exact named name index limit rfl
      | _ => exact narrow_of_ascii (by decide)
    have access : Narrow " access: 0x".toList := narrow_of_ascii (by decide)
    have bound : Narrow " (limit 0x".toList := narrow_of_ascii (by decide)
    have close : Narrow ")".toList := narrow_of_ascii (by decide)
    show Narrow ("Out of range " ++ area.name ++ " access: 0x" ++ Hex.padded 1 index ++ " (limit 0x" ++
      Hex.padded 1 limit ++ ")").toList
    simp only [String.toList_append, narrow_append, front, name, access, bound, close, narrow_padded,
      and_self]

section

variable {s : Session}
  (named : ∀ name index limit,
    s.lastFault = some (.outOfRange (.other name) index limit) → Narrow name.toList)

include named

theorem narrow_faultLines : ∀ line ∈ s.faultLines, Narrow line.toList := by
  cases noted : s.lastFault with
  | none =>
    rw [Session.faultLines, noted]
    exact List.forall_mem_nil _
  | some cause =>
    rw [Session.faultLines, noted]
    simp only [Option.elim_some, List.forall_mem_cons]
    refine ⟨narrow_nil, narrow_message fun name index limit is => ?_, List.forall_mem_nil _⟩
    exact named name index limit (noted.trans (congrArg some is))

theorem lines_of_fault (room : ∀ line ∈ s.faultLines, line.toList.length ≤ width) :
    (s.lastFault.elim [] fun cause => [Block.text [⟨"\n" ++ cause.message, "bold red"⟩]]).flatMap
      (Block.lines width) = s.faultLines.map String.toList := by
  have narrow := narrow_faultLines named
  cases noted : s.lastFault with
  | none =>
    rw [Session.faultLines, noted]
    rfl
  | some cause =>
    have text : Block.plain [⟨"\n" ++ cause.message, "bold red"⟩] =
        "\n".intercalate ["", cause.message] := by
      apply String.toList_inj.mp
      simp [Block.plain]
    rw [Session.faultLines, noted] at narrow room ⊢
    rw [Option.elim_some, Option.elim_some, List.flatMap_singleton]
    exact Block.lines_of_plain (List.cons_ne_nil _ _) text narrow room

theorem narrow_processorLines : ∀ line ∈ s.processorLines, Narrow line.toList := by
  simp only [Session.processorLines, List.forall_mem_append]
  exact ⟨⟨⟨narrow_numberLines _, narrow_registerLines _⟩, narrow_keyLines⟩, narrow_faultLines named⟩

theorem inside_of_showsProcessor (shows : p.ShowsProcessor s) (wide : 37 ≤ width)
    (fits : ∀ line ∈ s.processorLines, line.toList.length ≤ width - 4) :
    p.inside width = s.processorLines.map String.toList := by
  obtain ⟨-, -, ⟨numbers, first, numberText⟩, ⟨table, second, columns, rows⟩, ⟨keys, third, keyText, -⟩,
    rest⟩ := shows
  have body : p.body = .text numbers :: .table table :: .text keys :: p.body.drop 3 := by
    rcases blocks : p.body with _ | ⟨_, _ | ⟨_, _ | ⟨_, more⟩⟩⟩ <;>
      rw [blocks] at first second third
    · cases first
    · cases second
    · cases third
    · cases first
      cases second
      cases third
      rfl
  -- The blocks come one below the other, and so do their lines.
  simp only [Session.processorLines, List.forall_mem_append] at fits
  obtain ⟨⟨⟨fitsNumbers, -⟩, fitsKeys⟩, fitsFault⟩ := fits
  have ofNumbers : Block.lines (width - 4) (.text numbers) = s.machine.numberLines.map String.toList :=
    Block.lines_of_plain (List.cons_ne_nil _ _) numberText (narrow_numberLines _) fitsNumbers
  have ofRegisters : Block.lines (width - 4) (.table table) = s.machine.registerLines.map String.toList :=
    Table.lines_of_registers columns rows (by omega)
  have ofKeys : Block.lines (width - 4) (.text keys) = keyLines.map String.toList :=
    Block.lines_of_plain (List.cons_ne_nil _ _) keyText narrow_keyLines fitsKeys
  rw [Panel.inside, if_neg (by omega), body, rest, List.flatMap_cons, List.flatMap_cons, List.flatMap_cons,
    ofNumbers, ofRegisters, ofKeys, lines_of_fault named fitsFault, Session.processorLines]
  simp only [List.map_append, List.append_assoc]

/-- On a plain console with room for it, the processor appears line by line in a box. -/
theorem lines_of_showsProcessor (shows : p.ShowsProcessor s)
    (room : ∀ line ∈ s.processorLines, line.toList.length + 4 ≤ width) :
    p.lines width = boxed width "CPU" (s.processorLines.map String.toList) := by
  -- The rule of the table is the longest of the lines that are always there.
  have long : 37 ≤ width := by
    have rule : " ─────────────────────────────── " ∈ s.processorLines := by
      simp [Session.processorLines, Machine.registerLines]
    exact room _ rule
  have wide : p.boxWidth width = width := by
    rw [boxWidth, shows.fills]
    rfl
  rw [Panel.lines, wide,
    inside_of_showsProcessor named shows long fun line member => Nat.le_sub_of_add_le (room line member)]
  refine box_of_narrow shows.title (narrow_of_ascii (by decide)) ?_ ?_ ?_
  · show 3 + 6 ≤ width
    omega
  · exact List.forall_mem_map.mpr (narrow_processorLines named)
  · exact List.forall_mem_map.mpr room

end

end Panel

/-- What is printed of a session on a plain console with room for it: the sixteen lines of the screen and the
lines about the processor, each in a box. -/
theorem Session.Printed.lines_eq {s : Session} {lines : List String}
    (printed : s.Printed (.plain width) lines)
    (named : ∀ name index limit,
      s.lastFault = some (.outOfRange (.other name) index limit) → Narrow name.toList)
    (wide : 68 ≤ width)
    (room : ∀ line ∈ s.processorLines, line.toList.length + 4 ≤ width) :
    lines = Panel.boxed 68 "CHIP-8" ((List.range 16).map fun r => (List.range 64).map fun x =>
        halfBlock (s.machine.screen.pixel x (2 * r)) (s.machine.screen.pixel x (2 * r + 1))) ++
      Panel.boxed width "CPU" (s.processorLines.map String.toList) := by
  obtain ⟨screen, processor, showsScreen, showsProcessor, rfl⟩ := printed
  have first : (Console.plain width).panel screen = _ := Panel.lines_of_showsScreen showsScreen wide
  have second : (Console.plain width).panel processor = _ :=
    Panel.lines_of_showsProcessor named showsProcessor room
  rw [first, second]

end Chip8
