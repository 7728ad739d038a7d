/-!
# Paths of program files

A path is kept in its normal form: the names between slashes, without empty ones and without those
that say "here".  A step up stays as it is, since what it leads to depends on the files.
-/

namespace Chip8.Rom

/-- A path in normal form. -/
structure Path where
  /-- The slashes at its front: none for a relative path, else one, or two if there were exactly two. -/
  root : String
  /-- The names, from the outside in. -/
  names : List String
  deriving DecidableEq, Repr

namespace Path

/-- The slashes that make a path absolute. -/
def rootOf (cs : List Char) : String :=
  match (cs.takeWhile (· == '/')).length with
  | 0 => ""
  | 2 => "//"
  | _ => "/"

/-- The path that a text names. -/
def ofString (s : String) : Path where
  root := rootOf s.toList
  names := ((s.toList.splitOn '/').map String.ofList).filter fun name => name != "" && name != "."

/-- The text of a path; a dot for the place where one is. -/
def text (p : Path) : String :=
  if p.root == "" && p.names.isEmpty then "." else p.root ++ "/".intercalate p.names

/-- The last name, empty if there is none. -/
def name (p : Path) : String := p.names.getLast?.getD ""

end Path

end Chip8.Rom
