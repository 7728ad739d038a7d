import Chip8.Text.Wrap

/-!
# Panels

A panel is text and tables in a box with rounded corners, maybe with a title in the middle of its upper
edge.  It is as wide as what it holds, or it fills the console.  Text that does not fit is wrapped, and a
table that does not fit is squeezed: its columns get narrower, and an ellipsis takes the place of what is
cut off.
-/

namespace Chip8

/-- A stretch of text in one style. -/
structure Span where
  text : String
  style : String
  deriving DecidableEq, Repr

/-- A column of a table. -/
structure Column where
  /-- What stands above the column. -/
  head : String
  /-- How many cells the column is meant to have. -/
  width : Nat
  style : String
  deriving DecidableEq, Repr

/-- Rows of cells under a line of heads. -/
structure Table where
  columns : List Column
  headStyle : String
  rows : List (List String)
  deriving DecidableEq, Repr

/-- What a panel holds. -/
inductive Block where
  | text (spans : List Span)
  | table (table : Table)
  deriving DecidableEq, Repr

/-- Text and tables in a box. -/
structure Panel where
  /-- What stands in the upper edge. -/
  title : Option Span
  /-- What stands inside, one below the other. -/
  body : List Block
  /-- The style of the box. -/
  border : String
  /-- Whether the box fills the console. -/
  fills : Bool
  deriving DecidableEq, Repr

/-- Text filled up with blanks, or cropped, to so many cells. -/
def exactly (width : Nat) (cs : List Char) : List Char :=
  let shown := Text.fitCells width cs
  shown ++ List.replicate (width - Text.cellCount shown) ' '

/-! ### Tables -/

namespace Table

/-- A share of one in `parts`, rounded to the nearest number, from the middle to the even one. -/
def share (total parts : Nat) : Nat :=
  let down := total / parts
  let twice := 2 * (total % parts)
  if twice < parts ∨ (twice = parts ∧ down % 2 = 0) then down else down + 1

/-- Takes `excess` cells away from the columns, about as many from each. -/
def shrink : (excess : Nat) → List Nat → List Nat
  | _, [] => []
  | excess, width :: rest =>
    let less := min width (share excess (rest.length + 1))
    (width - less) :: shrink (excess - less) rest

/-- The cells of each column in a table of at most `width` cells.  There is a blank on both sides of a
cell, and one more between cells and at both ends. -/
def widths (t : Table) (width : Nat) : List Nat :=
  let room := width - (t.columns.length + 1)
  let wanted := t.columns.map fun c => max 1 (min (c.width + 2) room)
  shrink (wanted.foldl (· + ·) 0 - room) wanted

/-- What is seen of a word in so many cells. -/
def seen (width : Nat) (word : String) : List Char :=
  if width = 0 then []
  else if Text.cellCount word.toList ≤ width then word.toList
  else Text.fitCells (width - 1) word.toList ++ ['…']

/-- A cell of a row. -/
def cell (width : Nat) (word : String) : List Char :=
  exactly width (' ' :: exactly (width - 2) (seen (width - 2) word) ++ [' '])

/-- A row of cells, the columns as wide as said. -/
def row (widths : List Nat) (words : List String) : List Char :=
  ' ' :: [' '].intercalate (widths.zipWith cell words) ++ [' ']

/-- The lines of a table of at most `width` cells: the heads with a rule below, and the rows, with an
empty line in front and behind. -/
def lines (t : Table) (width : Nat) : List (List Char) :=
  let widths := t.widths width
  let rule := ' ' :: ['─'].intercalate (widths.map (List.replicate · '─')) ++ [' ']
  [] :: row widths (t.columns.map Column.head) :: rule :: t.rows.map (row widths) ++ [[]]

end Table

/-! ### Boxes -/

namespace Block

/-- The text without its styles. -/
def plain (spans : List Span) : String := String.join (spans.map Span.text)

/-- The lines of a block in so many cells. -/
def lines (width : Nat) : Block → List (List Char)
  | .text spans => (Text.wrap width ⟨(plain spans).toList, []⟩).map String.toList
  | .table t => t.lines width

/-- How many cells a block would take. -/
def size : Block → Nat
  | .text spans => (((plain spans).toList.splitOn '\n').map Text.cellCount).foldl max 0
  | .table t => t.columns.foldl (fun n c => n + c.width + 3) 1

end Block

namespace Panel

/-- A horizontal edge of the given length. -/
def edge (length : Nat) : List Char := List.replicate length '─'

/-- The width of the box on a console: two borders, two blanks and what is between, or the title with a
bit of edge on both sides. -/
def boxWidth (p : Panel) (width : Nat) : Nat :=
  let inside := (p.body.map Block.size).foldl max 0
  let titled := p.title.elim 0 fun t => Text.cellCount t.text.toList + 6
  if p.fills then width else min width (max (inside + 4) titled)

/-- The upper edge; of two unequal parts beside the title the right one is longer. -/
def top (title : Option Span) (width : Nat) : List Char :=
  match title.filter fun _ => 4 < width with
  | none => '╭' :: edge (width - 2) ++ ['╮']
  | some t =>
    let label := Text.fitCells (width - 4) (' ' :: t.text.toList ++ [' '])
    let free := width - 4 - Text.cellCount label
    '╭' :: edge (1 + free / 2) ++ label ++ edge (free - free / 2 + 1) ++ ['╮']

/-- The lower edge. -/
def bottom (width : Nat) : List Char := '╰' :: edge (width - 2) ++ ['╯']

/-- A line inside the box. -/
def line (width : Nat) (text : List Char) : List Char :=
  '│' :: exactly (width - 2) (' ' :: exactly (width - 4) text) ++ ['│']

/-- What stands inside a box of the given width. -/
def inside (p : Panel) (width : Nat) : List (List Char) :=
  if width ≤ 4 then [] else p.body.flatMap (Block.lines (width - 4))

/-- The box around lines. -/
def box (p : Panel) (width : Nat) (rows : List (List Char)) : List String :=
  (top p.title width :: rows.map (line width) ++ [bottom width]).map fun l =>
    String.ofList (Text.fitCells width l)

/-- The lines of a panel on a console of the given width. -/
def lines (p : Panel) (width : Nat) : List String :=
  p.box (p.boxWidth width) (p.inside (p.boxWidth width))

/-- The lines of a panel that has to take a certain number of them: it is filled up with empty lines, or
the last lines inside are left out. -/
def linesIn (p : Panel) (width height : Nat) : List String :=
  let rows := p.inside (p.boxWidth width)
  p.box (p.boxWidth width)
    (rows.take (height - 2) ++ List.replicate (height - 2 - rows.length) [])

end Panel

end Chip8
