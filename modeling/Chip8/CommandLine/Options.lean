import Chip8.Text.Decimal
import Chip8.Text.Quoted

/-!
# Command-line options

Switches have short names of one letter and long names of which any prefix that no other long name has
will do.  Flags stand alone, and their letters may be run together behind one dash, or behind a letter
and an equals sign; settings take a value, which follows as the next argument, or behind an equals
sign, or directly behind the letter.  Behind a letter that is run together with others an equals sign
is a character like any other.  Two dashes for a value, which can only stand in the same argument, take
a setting back to what it is when nothing is said.
Behind the separator `--` nothing is a switch.  Negative numbers and texts with a space in them are
values although they begin with a dash.

Reading goes in two passes: `classify` says of every argument by itself what it is, and `read` goes
through them and carries them out in order.
-/

namespace Chip8.CommandLine

/-- A switch without a value. -/
inductive Flag where
  | help
  | interactive
  | bell
  | demo
  | verbose
  deriving DecidableEq, Repr

/-- A switch with a value. -/
inductive Setting where
  | steps
  | seed
  | interval
  deriving DecidableEq, Repr

/-- A switch. -/
inductive Switch where
  | flag (f : Flag)
  | setting (s : Setting)
  deriving DecidableEq, Repr

/-- All names of switches, each with its switch. -/
def names : List (String × Switch) :=
  [("-h", .flag .help), ("--help", .flag .help),
   ("-i", .flag .interactive), ("--interactive", .flag .interactive),
   ("-n", .setting .steps), ("--steps", .setting .steps),
   ("-s", .setting .seed), ("--seed", .setting .seed),
   ("--interval", .setting .interval),
   ("--bell", .flag .bell),
   ("--demo", .flag .demo),
   ("-v", .flag .verbose), ("--verbose", .flag .verbose)]

/-- The switch of a name. -/
def switch? (name : String) : Option Switch := names.lookup name

/-- The names of a switch, as messages show them. -/
def Switch.label (s : Switch) : String :=
  "/".intercalate ((names.filter (·.2 = s)).map (·.1))

/-- How messages call the values of a setting. -/
def Setting.kind : Setting → String
  | .steps => "positive_int"
  | .seed => "int"
  | .interval => "float"

/-- Why the arguments cannot be read. -/
inductive UsageError where
  /-- The beginning of a long name is that of several. -/
  | ambiguous (argument : String) (candidates : List String)
  /-- A setting stands without a value. -/
  | missingValue (s : Setting)
  /-- A flag was given a value. -/
  | valueForFlag (f : Flag) (value : String)
  /-- The value of a setting is not of its kind. -/
  | badValue (s : Setting) (value : String)
  /-- The number of steps is not positive. -/
  | tooFewSteps (value : String)
  /-- There are arguments left over. -/
  | unrecognized (arguments : List String)
  deriving DecidableEq, Repr

/-- The wording of a usage error. -/
def UsageError.message : UsageError → String
  | .ambiguous argument candidates =>
    "ambiguous option: " ++ argument ++ " could match " ++ ", ".intercalate candidates
  | .missingValue s => about (.setting s) "expected one argument"
  | .valueForFlag f value => about (.flag f) ("ignored explicit argument " ++ Text.quoted value)
  | .badValue s value =>
    about (.setting s) ("invalid " ++ s.kind ++ " value: " ++ Text.quoted value)
  | .tooFewSteps value => about (.setting .steps) ("must be at least 1: " ++ value)
  | .unrecognized arguments => "unrecognized arguments: " ++ " ".intercalate arguments
where
  /-- A message about a switch. -/
  about (s : Switch) (text : String) : String := "argument " ++ s.label ++ ": " ++ text

/-! ### What an argument is -/

/-- An argument, classified. -/
inductive Argument where
  | word (text : String)
  | separator
  /-- A switch.  `short` says that its name has one dash, and `value` is what was written behind the
  name. -/
  | switch (s : Switch) (short : Bool) (value : Option (List Char))
  /-- Something that looks like a switch. -/
  | unknown (text : String)
  deriving DecidableEq, Repr

/-- Whether an argument is a switch or looks like one. -/
def Argument.isSwitch : Argument → Bool
  | .switch .. | .unknown _ => true
  | .word _ | .separator => false

/-- Whether a text is a minus sign and digits, maybe with a point before the last of them, and maybe a
line end. -/
def isNegativeNumber (cs : List Char) : Bool :=
  match cs with
  | '-' :: rest =>
    let rest := if rest.getLast? = some '\n' then rest.dropLast else rest
    match rest.dropWhile Text.isDigit with
    | [] => !rest.isEmpty
    | '.' :: fraction => !fraction.isEmpty && fraction.all Text.isDigit
    | _ => false
  | _ => false

/-- Splits at the first equals sign. -/
def splitEquals (cs : List Char) : List Char × Option (List Char) :=
  match cs.dropWhile (· != '=') with
  | _ :: value => (cs.takeWhile (· != '='), some value)
  | [] => (cs, none)

/-- The long names that begin as a text does. -/
def longNames (beginning : List Char) : List (String × Switch) :=
  names.filter fun entry => beginning.isPrefixOf entry.1.toList

/-- What a text that begins with a dash and is no switch by itself is. -/
def otherwise (text : String) : Argument :=
  if isNegativeNumber text.toList || text.toList.contains ' ' then .word text else .unknown text

/-- What an argument in front of the separator is. -/
def classify (text : String) : Except UsageError Argument :=
  match text.toList with
  | ['-', '-'] => .ok .separator
  | '-' :: c :: cs =>
    -- A name as it stands wins over the same name cut off at an equals sign, and that over a beginning.
    let (name, value) := splitEquals ('-' :: c :: cs)
    match switch? text, switch? (String.ofList name) with
    | some s, _ => .ok (.switch s (c != '-') none)
    | none, some s => .ok (.switch s (c != '-') value)
    | none, none =>
      if c = '-' then
        match longNames name with
        | [] => .ok (otherwise text)
        | [(_, s)] => .ok (.switch s false value)
        | several => .error (.ambiguous text (several.map (·.1)))
      else
        match switch? (String.ofList ['-', c]) with
        | some s => .ok (.switch s true (some cs))
        | none => .ok (otherwise text)
  | _ => .ok (.word text)

/-- What the arguments are.  Behind the separator all are words. -/
def classifyAll : List String → Except UsageError (List Argument)
  | [] => .ok []
  | text :: rest => do
    match ← classify text with
    | .separator => return .separator :: rest.map .word
    | argument => return argument :: (← classifyAll rest)

/-! ### What the arguments say -/

/-- The options of the program. -/
structure Options where
  /-- The program file. -/
  rom : Option String
  interactive : Bool
  /-- How many instructions to carry out when not playing interactively. -/
  steps : Nat
  seed : Option Int
  /-- Seconds between the instructions when playing interactively. -/
  interval : Text.Decimal
  bell : Bool
  demo : Bool
  verbose : Bool
  deriving DecidableEq, Repr

/-- The options when nothing is said. -/
def Options.default : Options where
  rom := none
  interactive := false
  steps := 1000
  seed := none
  interval := .finite 2 (-3)
  bell := false
  demo := false
  verbose := false

/-- What the arguments ask for. -/
inductive Request where
  | help
  | run (options : Options)
  deriving DecidableEq, Repr

/-- Sets a flag. -/
def Options.setFlag (o : Options) : Flag → Options
  | .help => o
  | .interactive => { o with interactive := true }
  | .bell => { o with bell := true }
  | .demo => { o with demo := true }
  | .verbose => { o with verbose := true }

/-- Takes a setting back to what it is when nothing is said. -/
def Options.reset (o : Options) : Setting → Options
  | .steps => { o with steps := Options.default.steps }
  | .seed => { o with seed := Options.default.seed }
  | .interval => { o with interval := Options.default.interval }

/-- Gives a setting its value. -/
def Options.set (o : Options) (s : Setting) (value : String) : Except UsageError Options :=
  if value = "--" then .ok (o.reset s)
  else match s with
  | .steps =>
    match Text.readInt? value with
    | none => .error (.badValue s value)
    | some n => if n < 1 then .error (.tooFewSteps value) else .ok { o with steps := n.toNat }
  | .seed =>
    match Text.readInt? value with
    | none => .error (.badValue s value)
    | some n => .ok { o with seed := some n }
  | .interval =>
    match Text.readDecimal? value with
    | none => .error (.badValue s value)
    | some interval => .ok { o with interval }

/-- What one argument asks for: flags, and behind them maybe a setting, with its value if that is
written in the same argument. -/
structure Asked where
  flags : List Flag
  setting : Option (Setting × Option (List Char))
  deriving DecidableEq, Repr

/-- Reads the letters behind a flag: more flags, up to a setting, whose value the others are.  What is
no letter of a switch would be a value of the flag in front. -/
def readLetters (f : Flag) (letters : List Char) : Except UsageError Asked :=
  match letters with
  | [] => .error (.valueForFlag f "")
  | c :: cs =>
    match switch? (String.ofList ['-', c]) with
    | none => .error (.valueForFlag f (String.ofList letters))
    | some (.setting s) => .ok ⟨[f], some (s, if cs.isEmpty then none else some cs)⟩
    | some (.flag g) =>
      if cs.isEmpty then .ok ⟨[f, g], none⟩
      else do
        let asked ← readLetters g cs
        return { asked with flags := f :: asked.flags }

/-- What a switch and what is written behind it ask for. -/
def readSwitch (s : Switch) (short : Bool) (value : Option (List Char)) : Except UsageError Asked :=
  match s, value with
  | .flag f, none => .ok ⟨[f], none⟩
  | .flag f, some letters =>
    if short then readLetters f letters else .error (.valueForFlag f (String.ofList letters))
  | .setting s, value => .ok ⟨[], some (s, value)⟩

/-- How far reading has come. -/
structure Reading where
  options : Options
  /-- Whether the place of the program file has been passed. -/
  romPassed : Bool
  /-- Arguments that nothing stands for, in order. -/
  leftOver : List String
  deriving Repr

/-- Reads the arguments behind the last switch.  The program file may have a separator on either side,
but where it has been passed already, all arguments are left over. -/
def readWords (r : Reading) (arguments : List Argument) : Reading :=
  if r.romPassed then leave r arguments
  else
    match dropSeparator arguments with
    | .word w :: rest => leave { r with options := { r.options with rom := some w } } (dropSeparator rest)
    | rest => leave r rest
where
  /-- Drops a separator from the front. -/
  dropSeparator : List Argument → List Argument
    | .separator :: rest => rest
    | rest => rest
  /-- Leaves the arguments over. -/
  leave (r : Reading) (arguments : List Argument) : Reading :=
    { r with leftOver := r.leftOver ++ arguments.map text }
  /-- An argument that is no switch, as it was written. -/
  text : Argument → String
    | .word w => w
    | .separator => "--"
    | .unknown t => t
    | .switch .. => ""

/-- Reads the arguments in order.  Nothing comes back if help was asked for on the way. -/
def readAll (r : Reading) (arguments : List Argument) : Except UsageError (Option Reading) :=
  if !arguments.any Argument.isSwitch then .ok (some (readWords r arguments))
  else match arguments with
    | [] => .ok (some r)
    | .separator :: _ => .ok (some (readWords r arguments))
    -- The first word in front of a switch is the program file, and all others are left over.
    | .word w :: rest =>
      if r.romPassed then readAll { r with leftOver := r.leftOver ++ [w] } rest
      else readAll { r with options := { r.options with rom := some w }, romPassed := true } rest
    | .unknown text :: rest => readAll { r with leftOver := r.leftOver ++ [text] } rest
    | .switch s short value :: rest => do
      let asked ← readSwitch s short value
      let flagged := { r with options := asked.flags.foldl Options.setFlag r.options }
      let help := asked.flags.contains .help
      -- Help is given as soon as it is asked for, but not if the last letter lacks its value.
      match asked.setting, rest with
      | none, rest => if help then return none else readAll flagged rest
      | some (setting, some value), rest =>
        if help then return none
        else do
          let options ← flagged.options.set setting (String.ofList value)
          readAll { flagged with options } rest
      | some (setting, none), .word value :: rest =>
        if help then return none
        else do
          let options ← flagged.options.set setting value
          readAll { flagged with options } rest
      | some (setting, none), _ => throw (.missingValue setting)
termination_by arguments.length

/-- Reads the command line. -/
def read (arguments : List String) : Except UsageError Request := do
  let classified ← classifyAll arguments
  match ← readAll ⟨Options.default, false, []⟩ classified with
  | none => return .help
  | some r =>
    if r.leftOver.isEmpty then return .run r.options else throw (.unrecognized r.leftOver)

end Chip8.CommandLine
