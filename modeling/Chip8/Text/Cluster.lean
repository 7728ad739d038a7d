import Chip8.Text.CellWidth

/-!
# Characters that belong together

A terminal shows some characters of a text as one: a letter with the marks behind it, a sign that is to
appear as a picture, and pictures that a joiner ties together.  `clusters` takes a text apart into such
clusters, and `cellCount` says how many cells a text takes.
-/

namespace Chip8.Text

/-- The joiner: the character behind it belongs to the cluster in front. -/
def joiner : Char := Char.ofNat 0x200D

/-- The selector that makes the sign in front of it appear as a picture. -/
def pictureSelector : Char := Char.ofNat 0xFE0F

/-- Characters that are shown as one. -/
structure Cluster where
  chars : List Char
  /-- The number of cells they take. -/
  cells : Nat
  deriving DecidableEq, Repr

namespace Cluster

/-- The cluster of one character. -/
def single (c : Char) : Cluster := ⟨[c], cellWidth c⟩

/-- Adds characters that make a cluster wider by `cells`. -/
def append (k : Cluster) (cs : List Char) (cells : Nat) : Cluster := ⟨k.chars ++ cs, k.cells + cells⟩

end Cluster

/-- The character itself if it takes cells, else the one before it that did. -/
def lastSeen (before : Option Char) (c : Char) : Option Char :=
  if cellWidth c = 0 then before else some c

/-- The clusters of a text whose first one begins with `present`.  `seen` is the last character that
took cells, unless a selector has made a picture of it. -/
def clustersFrom (present : Cluster) (seen : Option Char) : List Char → List Cluster
  | [] => [present]
  | c :: cs =>
    if c = joiner then
      match cs with
      | [] => [present.append [c] 0]
      | d :: cs => clustersFrom (present.append [c, d] 0) seen cs
    else if c = pictureSelector then
      if seen.any isPictureSign then clustersFrom (present.append [c] 1) none cs
      else clustersFrom (present.append [c] 0) seen cs
    else if cellWidth c = 0 then clustersFrom (present.append [c] 0) seen cs
    else present :: clustersFrom (.single c) (some c) cs

/-- The clusters of a text. -/
def clusters : List Char → List Cluster
  | [] => []
  | c :: cs => clustersFrom (.single c) (lastSeen none c) cs

/-- The number of cells that a text takes.  A joiner with nothing in front of it hides the character
behind it. -/
def cellCount : List Char → Nat
  | [] => 0
  | [c] => cellWidth c
  | c :: d :: cs =>
    if c = joiner then cellCount cs
    else (clusters (c :: d :: cs)).foldl (fun n k => n + k.cells) 0

end Chip8.Text
