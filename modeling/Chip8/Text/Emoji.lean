import Chip8.Text.Blank
import Chip8.Text.Cluster
import Chip8.Text.Emoji.Names

/-!
# Emoji by name

A name between two colons stands for an emoji.  Capital letters in it count as small ones, a country may
be asked for with `flag_for_` in front, and people and hands with a skin tone behind.  At the very end,
`-emoji` asks for a picture and `-text` for a sign.  What names no emoji stays as it is, colons and all,
and the second of its colons begins no other name.
-/

namespace Chip8.Text.Emoji

/-- The selector that makes the picture in front of it appear as a sign. -/
def signSelector : Char := Char.ofNat 0xFE0E

/-- The small letter of a capital one, of the letters that names are made of. -/
def smallLetter (c : Char) : Char :=
  let n := c.toNat
  if c.isUpper || (0xC0 ≤ n && n ≤ 0xDE && n != 0xD7) then Char.ofNat (n + 0x20)
  -- The signs of the kelvin and of the angstrom are capital letters too.
  else if n = 0x212A then 'k'
  else if n = 0x212B then Char.ofNat 0xE5
  else c

/-- The flag of a region of two letters. -/
def flag (region : String) : List Char :=
  region.toList.map fun c => Char.ofNat (0x1F1E6 + (c.toNat - 'A'.toNat))

/-- The flag of a country. -/
def flagOf? (name : List Char) : Option (List Char) :=
  let flagFor := "flag_for_".toList
  let country := if flagFor.isPrefixOf name then name.drop flagFor.length else name
  (countries.lookup (String.ofList country)).map flag

/-- The endings of names with a skin tone, each with its tone. -/
def tones : List (List Char × Char) :=
  [("_light_skin_tone".toList, Char.ofNat 0x1F3FB),
   ("_medium-light_skin_tone".toList, Char.ofNat 0x1F3FC),
   ("_medium_skin_tone".toList, Char.ofNat 0x1F3FD),
   ("_medium-dark_skin_tone".toList, Char.ofNat 0x1F3FE),
   ("_dark_skin_tone".toList, Char.ofNat 0x1F3FF)]

/-- Gives an emoji a skin tone.  The tone stands behind the first character and makes a picture of it by
itself. -/
def inTone (tone : Char) : List Char → List Char
  | [] => []
  | c :: cs => c :: tone :: (if cs.head? = some pictureSelector then cs.drop 1 else cs)

/-- A person or a hand, maybe in a skin tone. -/
def person? (name : List Char) : Option (List Char) :=
  let inNoTone? (name : List Char) := (people.lookup (String.ofList name)).map String.toList
  inNoTone? name <|> tones.findSome? fun (ending, tone) =>
    if ending.isSuffixOf name then (inNoTone? (name.take (name.length - ending.length))).map (inTone tone)
    else none

/-- The emoji of a name. -/
def ofName? (name : List Char) : Option (List Char) :=
  (others.lookup (String.ofList name)).map String.toList <|> flagOf? name <|> person? name

/-- Takes off the end of a code what says how the emoji is to appear: the name that is left, and the
selector. -/
def splitEnding (code : List Char) : List Char × List Char :=
  let asPicture := "-emoji".toList
  let asSign := "-text".toList
  if asPicture.isSuffixOf code then (code.take (code.length - asPicture.length), [pictureSelector])
  else if asSign.isSuffixOf code then (code.take (code.length - asSign.length), [signSelector])
  else (code, [])

/-- The emoji of a code, which is what stands between the colons. -/
def ofCode? (code : List Char) : Option (List Char) :=
  let (name, selector) := splitEnding code
  (ofName? (name.map smallLetter)).map (· ++ selector)

/-- Replaces the codes in what follows the first part of a text that is split at its colons.  A code has
no gap in it. -/
def replaceParts : List (List Char) → List Char
  | [] => []
  | [part] => ':' :: part
  | code :: part :: rest =>
    if code.any isGap then ':' :: code ++ replaceParts (part :: rest)
    else ((ofCode? code).getD (':' :: code ++ [':'])) ++ part ++ replaceParts rest

/-- Replaces the codes in a text by emoji. -/
def replace (cs : List Char) : List Char :=
  match cs.splitOn ':' with
  | [] => []
  | part :: rest => part ++ replaceParts rest

end Chip8.Text.Emoji
