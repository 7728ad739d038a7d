import Chip8.Text.Styled

/-!
# Patterns of characters

A pattern says how a piece of text may look.  It is tried at a place of a text from left to right: of
alternatives the first that leads to a match counts, and a repetition goes on as long as it can if it is
eager, and stops as soon as it can if it is not.  `Pattern.find` looks for all matches in a text, one
behind the other, and gives the stretches that are marked in the pattern.
-/

namespace Chip8.Text

/-- A place in a text. -/
structure Place where
  /-- The character in front. -/
  before : Option Char
  /-- The characters behind. -/
  rest : List Char
  /-- The number of characters in front. -/
  position : Nat
  /-- The stretches that were marked on the way. -/
  marks : List Stretch
  deriving Repr

/-- How a piece of text may look. -/
inductive Pattern where
  | empty
  /-- A character that is accepted. -/
  | char (accepts : Char → Bool)
  | seq (p q : Pattern)
  | alt (p q : Pattern)
  /-- At least `least` times, and then at most `more` times, or as often as may be. -/
  | rep (eager : Bool) (least : Nat) (more : Option Nat) (p : Pattern)
  /-- Nothing, between characters that fit: the one in front and the one behind. -/
  | between (fits : Option Char → Option Char → Bool)
  /-- A piece that is marked. -/
  | marked (p : Pattern)

namespace Pattern

/-! ### Building patterns -/

/-- One of the characters of `s`. -/
def oneOf (s : String) : Pattern := .char s.toList.contains

/-- The text `s`. -/
def text (s : String) : Pattern := s.toList.foldr (fun c p => .seq (.char (· == c)) p) .empty

/-- All patterns, one behind the other. -/
def all (ps : List Pattern) : Pattern := ps.foldr .seq .empty

/-- The first pattern that leads to a match. -/
def anyOf (p : Pattern) : List Pattern → Pattern
  | [] => p
  | q :: ps => .alt p (anyOf q ps)

/-- A pattern or nothing. -/
def optional (p : Pattern) : Pattern := .rep true 0 (some 1) p

/-- Any number of times. -/
def many (p : Pattern) : Pattern := .rep true 0 none p

/-- At least once. -/
def oneOrMore (p : Pattern) : Pattern := .rep true 1 none p

/-- From `least` to `least + more` times. -/
def times (least more : Nat) (p : Pattern) : Pattern := .rep true least (some more) p

/-- Nothing, behind a character that fits or at the beginning. -/
def behind (fits : Char → Bool) : Pattern := .between fun before _ => before.all fits

/-! ### Matching -/

/-- Tries `step` for `n` times and then `next`. -/
def repeated (step : (Place → Option Place) → Place → Option Place) :
    (n : Nat) → (next : Place → Option Place) → Place → Option Place
  | 0, next => next
  | n + 1, next => step (repeated step n next)

/-- Tries `step` for at most `n` times and then `next`: more of them first if `eager`, else fewer. -/
def upTo (eager : Bool) (step : (Place → Option Place) → Place → Option Place) :
    (n : Nat) → (next : Place → Option Place) → Place → Option Place
  | 0, next, s => next s
  | n + 1, next, s =>
    if eager then step (upTo eager step n next) s <|> next s
    else next s <|> step (upTo eager step n next) s

/-- Tries a pattern at a place, and then `next` at the place that it leads to. -/
def run : Pattern → (next : Place → Option Place) → Place → Option Place
  | .empty, next, s => next s
  | .char accepts, next, s =>
    match s.rest with
    | [] => none
    | c :: cs =>
      if accepts c then next { s with before := c, rest := cs, position := s.position + 1 } else none
  | .seq p q, next, s => p.run (q.run next) s
  | .alt p q, next, s => p.run next s <|> q.run next s
  | .rep eager least more p, next, s =>
    -- Where nothing else bounds it, a repetition takes no more turns than there are characters.
    repeated p.run least (upTo eager p.run (more.getD s.rest.length) next) s
  | .between fits, next, s => if fits s.before s.rest.head? then next s else none
  | .marked p, next, s =>
    p.run (fun t => next { t with marks := ⟨s.position, t.position⟩ :: t.marks }) s

/-- The stretches that a pattern marks in a text.  Matches do not overlap. -/
def find (p : Pattern) (cs : List Char) : List Stretch := go 0 none 0 cs
where
  /-- Looks behind `before` at the position `i`, when `skip` more characters are matched already. -/
  go (skip : Nat) (before : Option Char) (i : Nat) : List Char → List Stretch
    | [] => []
    | c :: cs =>
      match skip with
      | skip + 1 => go skip c (i + 1) cs
      | 0 =>
        match p.run some ⟨before, c :: cs, i, []⟩ with
        | some s => s.marks ++ go (s.position - i - 1) c (i + 1) cs
        | none => go 0 c (i + 1) cs

end Pattern

end Chip8.Text
