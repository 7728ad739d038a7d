import Chip8.Text.Cluster
import Chip8.Text.Digit
import Chip8.Text.Pattern
import Chip8.Text.WordChar

/-!
# What stands out in a text

Some things stand out in every text that is printed: tags in angle brackets, names with a value behind
an equals sign, brackets, addresses, names that are called, the words for truth and for nothing, ellipses,
numbers, paths and quoted texts.
-/

namespace Chip8.Text.Highlight

open Pattern

/-- Not behind a character that words are made of. -/
def apart : Pattern := behind fun c => !isWordChar c

/-- Whether exactly one of the two characters is one that words are made of. -/
def atWordEdge (before after : Option Char) : Bool :=
  before.any isWordChar != after.any isWordChar

/-- The beginning or the end of a word. -/
def wordEdge : Pattern := .between atWordEdge

/-- Whether a character is a hexadecimal digit. -/
def isHexDigit (c : Char) : Bool := c.isDigit || ('a' ≤ c && c ≤ 'f') || ('A' ≤ c && c ≤ 'F')

/-- A character that words are made of. -/
def wordChar : Pattern := .char isWordChar

/-- A decimal digit of the basic characters. -/
def digit : Pattern := .char Char.isDigit

/-- A hexadecimal digit. -/
def hexDigit : Pattern := .char isHexDigit

/-! ### Tags, assignments, brackets -/

/-- A tag: its brackets, its name, and what else is in it. -/
def tag : Pattern :=
  all [.marked (text "<"), .marked (many (.char fun c => isWordChar c || "-.:|".toList.contains c)),
    .marked (many (.char fun _ => true)), .marked (text ">")]

/-- A name of at most 50 characters and its value, which may be in quotes. -/
def assignment : Pattern :=
  let quote := optional (text "\"")
  all [.marked (times 1 49 wordChar), text "=",
    optional (.marked (all [quote, oneOrMore wordChar, quote]))]

/-- A bracket. -/
def bracket : Pattern := .marked (oneOf "][()\x7b\x7d")

/-! ### Addresses -/

/-- A network address of four decimal numbers. -/
def dottedAddress : Pattern :=
  let number := times 1 2 digit
  all [number, text ".", number, text ".", number, text ".", number]

/-- A network address of up to eight hexadecimal numbers. -/
def colonAddress : Pattern :=
  let number := times 1 3 hexDigit
  all [times 1 6 (all [number, text ":", optional (text ":")]), number]

/-- A hardware address of a number of bytes, of which `groups + 1` quadruples make the dotted form. -/
def hardwareAddress (bytes groups : Nat) : Pattern :=
  let pair := times 1 1 hexDigit
  let quadruple := times 4 0 hexDigit
  anyOf (all [times (bytes - 1) 0 (all [pair, text "-"]), pair])
    [all [times (bytes - 1) 0 (all [pair, text ":"]), pair],
     all [times groups 0 (all [quadruple, text "."]), quadruple]]

/-- A universal identifier. -/
def universalId : Pattern :=
  let quadruple := times 4 0 hexDigit
  all [times 8 0 hexDigit, text "-", quadruple, text "-", quadruple, text "-", quadruple, text "-",
    times 12 0 hexDigit]

/-! ### Calls, words, numbers -/

/-- A name in front of an opening parenthesis. -/
def call : Pattern :=
  .seq (.marked (.rep false 0 none (.char fun c => isWordChar c || c == '.'))) (text "(")

/-- One of the words for truth and for nothing. -/
def constant : Pattern :=
  let word (s : String) := all [wordEdge, .marked (text s), wordEdge]
  anyOf (word "True") [word "False", word "None"]

/-- Digits with a point among or behind them. -/
def decimal : Pattern := all [oneOrMore digit, optional (text "."), many digit]

/-- An exponent, whose digits may be of any script. -/
def exponent (eager : Bool) : Pattern :=
  all [text "e", optional (oneOf "-+"), .rep eager 1 none (.char isDigit)]

/-- A complex number. -/
def complexNumber : Pattern :=
  all [apart, optional (text "-"), decimal, optional (exponent false),
    optional (all [oneOf "-+", decimal, optional (exponent true)]), text "j"]

/-- A number. -/
def number : Pattern :=
  anyOf (all [apart, optional (text "-"), decimal, optional (exponent false), wordEdge])
    [all [text "0x", many hexDigit]]

/-! ### Paths and quoted texts -/

/-- A path and the name at its end. -/
def path : Pattern :=
  let nameChar := .char fun c => isWordChar c || "-._+".toList.contains c
  all [.between fun before after => !atWordEdge before after,
    .marked (all [many (all [text "/", oneOrMore nameChar]), text "/"]), .marked (many nameChar)]

/-- A text in quotes.  It ends at the first quote without a backslash in front. -/
def quotedBy (quote : String) : Pattern :=
  all [optional (text "b"), text quote, .rep false 0 none (.char (· != '\n')), behind (· != '\\'),
    text quote]

/-- A text in any quotes. -/
def quotation : Pattern :=
  all [behind fun c => !isWordChar c && c != '\\',
    .marked (anyOf (quotedBy "'''") [quotedBy "'", quotedBy "\"\"\"", quotedBy "\""])]

/-! ### All together -/

/-- The things of which the first that fits stands out. -/
def thing : Pattern :=
  anyOf (.marked dottedAddress)
    [.marked colonAddress, .marked (hardwareAddress 8 3), .marked (hardwareAddress 6 2),
     .marked universalId, call, constant, .marked (text "..."), .marked complexNumber, .marked number,
     path, quotation]

/-- The stretches that stand out in a text. -/
def stretches (cs : List Char) : List Stretch :=
  ([tag, assignment, bracket, thing].flatMap (·.find cs)).filter fun s => s.start < s.stop

/-- Adds what stands out to a styled text.  Only behind a joiner does it matter to the lines of a text
where its parts begin, and so texts without one are spared the search. -/
def add (t : Styled) : Styled :=
  if t.chars.contains joiner then { t with stretches := t.stretches ++ stretches t.chars } else t

end Chip8.Text.Highlight
