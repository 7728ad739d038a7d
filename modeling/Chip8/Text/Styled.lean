/-!
# Styled text

A text of which some stretches look different from the rest.  A stretch may lie within another, and all
of them together divide a line into parts: a part ends where a stretch begins or ends.
-/

namespace Chip8.Text

/-- The characters from the position `start` up to the position `stop`. -/
structure Stretch where
  start : Nat
  stop : Nat
  deriving DecidableEq, Repr

/-- A text with stretches that look different. -/
structure Styled where
  chars : List Char
  stretches : List Stretch
  deriving Repr

/-- A character of a styled text. -/
structure Glyph where
  char : Char
  /-- Whether a part of the text begins with it. -/
  opens : Bool
  deriving DecidableEq, Repr

namespace Styled

/-- Whether a part begins at the position `i`.  A stretch that goes on behind a tab has another part
there. -/
def opensAt (t : Styled) (i : Nat) (afterTab : Bool) : Bool :=
  t.stretches.any fun s =>
    s.start = i || s.stop = i || (afterTab && s.start < i && i < s.stop)

/-- The characters of a styled text with the beginnings of its parts. -/
def glyphs (t : Styled) : List Glyph := go 0 false t.chars
where
  /-- The glyphs from the position `i` on. -/
  go (i : Nat) (afterTab : Bool) : List Char → List Glyph
    | [] => []
    | c :: cs => ⟨c, t.opensAt i afterTab⟩ :: go (i + 1) (c == '\t') cs

end Styled

end Chip8.Text
