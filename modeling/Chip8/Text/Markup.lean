import Chip8.Text.Emoji
import Chip8.Text.Styled

/-!
# Tags that style a text

A text may style its stretches by tags, which are written in brackets and begin with a lower-case letter
or with one of `#`, `/` and `@`; other brackets are just brackets.  What a tag says holds up to the tag
that closes it, which begins with `/`, or to the end.  A backslash in front of a tag makes it plain text,
and two backslashes in front of a tag are one.  Names between colons stand for emoji, also in a tag that
is plain text, but not across one.

`Markup.read` takes the tags out of a text and tells which stretches they style; of what they say about
them nothing shows.  `Markup.escape` puts the backslashes in that make the tags of a text appear as they
are.
-/

namespace Chip8.Text.Markup

/-- Whether a character can begin a tag. -/
def opensTag (c : Char) : Bool := c.isLower || c == '#' || c == '/' || c == '@'

/-- Takes a tag off the front, brackets included: what it says in between, and what follows. -/
def takeTag? : List Char → Option (List Char × List Char)
  | '[' :: c :: cs =>
    if opensTag c then
      match cs.dropWhile (fun d => d != ']' && d != '[') with
      | ']' :: rest => some (c :: cs.takeWhile (fun d => d != ']' && d != '['), rest)
      | _ => none
    else none
  | _ => none

theorem length_takeTag? {cs tag rest : List Char} (h : takeTag? cs = some (tag, rest)) :
    rest.length < cs.length := by
  unfold takeTag? at h
  split at h
  · next c cs =>
    split at h
    · split at h
      · next rest' e =>
        have hlen : (cs.dropWhile fun d => d != ']' && d != '[').length ≤ cs.length :=
          (List.dropWhile_suffix _).length_le
        rw [e] at hlen
        simp only [Option.some.injEq, Prod.mk.injEq] at h
        obtain ⟨_, rfl⟩ := h
        simp only [List.length_cons] at hlen ⊢
        omega
      · simp at h
    · simp at h
  · simp at h

/-- A part of a text: characters, or a tag with the number of backslashes in front of it. -/
inductive Part where
  | text (c : Char)
  | tag (backslashes : Nat) (inside : List Char)
  deriving DecidableEq, Repr

/-- The parts of a text.  `backslashes` counts those just passed, which belong to a tag that follows. -/
def parts (backslashes : Nat) (cs : List Char) : List Part :=
  match (takeTag? cs).attach with
  | some ⟨(inside, rest), _⟩ => .tag backslashes inside :: parts 0 rest
  | none =>
    match cs with
    | '\\' :: rest => parts (backslashes + 1) rest
    | c :: rest => List.replicate backslashes (.text '\\') ++ .text c :: parts 0 rest
    | [] => List.replicate backslashes (.text '\\')
termination_by cs.length
decreasing_by
  · exact length_takeTag? ‹_›
  · simp
  · simp

/-- Drops the backslash of every bracket that follows one. -/
def unescapeBrackets : List Char → List Char
  | '\\' :: '[' :: cs => '[' :: unescapeBrackets cs
  | c :: cs => c :: unescapeBrackets cs
  | [] => []

/-- Characters that are not printed: bell, backspace, and the breaks other than the line end. -/
def isDropped (c : Char) : Bool := [0x07, 0x08, 0x0B, 0x0C, 0x0D].contains c.toNat

/-- What has been read of a text. -/
structure Reading where
  /-- What shows. -/
  chars : List Char
  /-- Where the stretches begin that are not closed yet, the last one first. -/
  opened : List Nat
  /-- The stretches that are closed. -/
  closed : List Stretch

namespace Reading

/-- Adds plain text. -/
def write (r : Reading) (cs : List Char) : Reading :=
  { r with chars := r.chars ++ (Emoji.replace (unescapeBrackets cs)).filter (!isDropped ·) }

/-- Opens a stretch, or closes the one that was opened last. -/
def follow (r : Reading) (inside : List Char) : Reading :=
  if inside.head? = some '/' then
    match r.opened with
    | [] => r
    | start :: opened => { r with opened, closed := ⟨start, r.chars.length⟩ :: r.closed }
  else { r with opened := r.chars.length :: r.opened }

/-- Reads some parts.  `run` is the plain text since the last tag, in reverse. -/
def readParts (r : Reading) : List Part → (run : List Char) → Reading
  | [], run => r.write run.reverse
  | .text c :: rest, run => r.readParts rest (c :: run)
  | .tag backslashes inside :: rest, run =>
    let r := (r.write run.reverse).write (List.replicate (backslashes / 2) '\\')
    let r := if backslashes % 2 = 1 then r.write ('[' :: inside ++ [']']) else r.follow inside
    r.readParts rest []

/-- The text that has been read; what is not closed lasts to its end. -/
def styled (r : Reading) : Styled :=
  ⟨r.chars, r.opened.map (⟨·, r.chars.length⟩) ++ r.closed⟩

end Reading

/-- Reads a text with tags. -/
def read (s : String) : Styled := (Reading.readParts ⟨[], [], []⟩ (parts 0 s.toList) []).styled

/-- Makes the tags of a text appear as they are. -/
def escape (s : String) : String :=
  String.ofList <| (parts 0 s.toList).flatMap fun part =>
    match part with
    | .text c => [c]
    | .tag backslashes inside =>
      List.replicate (2 * backslashes + 1) '\\' ++ '[' :: inside ++ [']']

end Chip8.Text.Markup
