import Chip8.Text.Blank
import Chip8.Text.Cluster
import Chip8.Text.Styled

/-!
# Lines that fit a terminal

A text is printed in lines that take no more cells than the terminal has.  A line is broken before a
word that does not fit behind the words in front of it; a word that fits on no line is cut into pieces
that do, and no cluster of characters is cut apart.  Blanks stay with the word in front of them, and
blanks that stick out at the end of a line are dropped.  At last a line is printed part by part, and as
a joiner does not reach into the next part, the parts may take more cells than the line; then what
sticks out is dropped.
-/

namespace Chip8.Text

/-- The words of a line, each with the gap behind it, the first also with the gap in front. -/
def words (cs : List Char) : List (List Char) :=
  let gap := cs.takeWhile isGap
  match split (cs.dropWhile isGap) [] with
  | [] => []
  | first :: rest => (gap ++ first) :: rest
where
  /-- Splits behind gaps.  `word` is the present word and its gap so far, in reverse. -/
  split : List Char → List Char → List (List Char)
    | [], [] => []
    | [], word => [word.reverse]
    | c :: cs, word =>
      if !isGap c && (word.head?.map isGap).getD false then word.reverse :: split cs [c]
      else split cs (c :: word)

/-- Puts clusters into pieces of at most `width` cells.  `piece` is the present piece, and `size` the
number of its cells. -/
def pieces (width : Nat) : List Cluster → (piece : List Char) → (size : Nat) → List (List Char)
  | [], piece, _ => [piece]
  | k :: ks, piece, size =>
    if width < size + k.cells then piece :: pieces width ks k.chars k.cells
    else pieces width ks (piece ++ k.chars) (size + k.cells)

/-- A word without the gap behind it. -/
def dropGap (word : List Char) : List Char := (word.reverse.dropWhile isGap).reverse

/-- Puts words into lines.  `line` is the present line, and `size` the cells that its words take one
by one. -/
def fillLines (width : Nat) : List (List Char) → (line : List Char) → (size : Nat) → List (List Char)
  | [], line, _ => [line]
  | word :: rest, line, size =>
    let needed := cellCount (dropGap word)
    if size + needed ≤ width then fillLines width rest (line ++ word) (size + cellCount word)
    else
      let closed := if line.isEmpty then [] else [line]
      if width < needed then
        -- The last piece begins the next line; the others are lines of their own.
        let cut := pieces width (clusters word) [] 0
        let line := cut.getLast?.getD []
        closed ++ cut.dropLast ++ fillLines width rest line (cellCount line)
      else closed ++ fillLines width rest word (cellCount word)

/-- Takes the clusters that fit into `width` cells.  A cluster that fits only in part leaves a blank. -/
def crop : (width : Nat) → List Cluster → List Char
  | _, [] => []
  | width, k :: ks =>
    if width = 0 then []
    else if width < k.cells then [' ']
    else k.chars ++ crop (width - k.cells) ks

/-- Drops the clusters that do not fit into `width` cells. -/
def fitCells (width : Nat) (line : List Char) : List Char :=
  if cellCount line ≤ width then line else crop width (clusters line)

/-- Drops the blanks by which a line is longer than `width`, and then the clusters. -/
def fitLine (width : Nat) (line : List Char) : List Char :=
  let blanks := (line.reverse.takeWhile isGap).length
  fitCells width (line.take (line.length - min blanks (line.length - width)))

/-! ### Glyphs -/

/-- A part of a line in front of a tab: it is filled up with blanks to a multiple of eight cells. -/
def fillTab (part : List Glyph) : List Glyph :=
  part ++ List.replicate ((8 - cellCount (part.map Glyph.char) % 8) % 8) ⟨' ', false⟩

/-- Puts blanks in the place of tabs, one at least for each.  `part` is what stands in front, up to the
last tab, in reverse. -/
def expandTabs : List Glyph → (part : List Glyph) → List Glyph
  | [], part => part.reverse
  | g :: gs, part =>
    if g.char = '\t' then fillTab ({ g with char := ' ' } :: part).reverse ++ expandTabs gs []
    else expandTabs gs (g :: part)

/-- Cuts a list into pieces of the given sizes. -/
def cutSizes {α : Type} : (sizes : List Nat) → List α → List (List α)
  | [], _ => []
  | n :: sizes, xs => xs.take n :: cutSizes sizes (xs.drop n)

/-- The lines of a text without line ends. -/
def wrapLine (width : Nat) (text : List Glyph) : List (List Glyph) :=
  match words (text.map Glyph.char) with
  | [] => [text]
  | ws => cutSizes ((fillLines width ws [] 0).map List.length) text

/-- What remains of a line when it is made to fit.  A blank in the place of a cluster stands where the
cluster began. -/
def fitGlyphs (width : Nat) (line : List Glyph) : List Glyph :=
  line.zipWith (fun g c => { g with char := c }) (fitLine width (line.map Glyph.char))

/-! ### Parts -/

/-- The parts of a line. -/
def parts (line : List Glyph) : List (List Char) :=
  (line.splitBy fun _ next => !next.opens).map (·.map Glyph.char)

/-- Takes the parts that fit into `width` cells, and of the last one what fits. -/
def cropParts : (width : Nat) → List (List Char) → List Char
  | _, [] => []
  | width, part :: rest =>
    let size := cellCount part
    if size < width then part ++ cropParts (width - size) rest else fitCells width part

/-- Prints the parts of a line, as far as they fit into `width` cells. -/
def printParts (width : Nat) (parts : List (List Char)) : List Char :=
  if parts.foldl (fun n part => n + cellCount part) 0 ≤ width then parts.flatten
  else cropParts width parts

/-- The lines of a text on a terminal with `width` cells to a line. -/
def wrap (width : Nat) (text : Styled) : List String :=
  let lines := (text.glyphs.splitOnP (·.char == '\n')).flatMap fun line =>
    wrapLine width (expandTabs line [])
  lines.map fun line => String.ofList (printParts width (parts (fitGlyphs width line)))

end Chip8.Text
