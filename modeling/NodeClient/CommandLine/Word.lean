import NodeClient.Number.Numeral

/-!
The words of a command line. A word that starts with a hyphen is an option, spelled in full, cut
short while it stays unambiguous, or joined with its value; negative numbers and words with a space
are arguments all the same.
-/

namespace NodeClient.CommandLine

inductive Switch where
  | help
  | address
  | config
  | json
  | verbose
deriving DecidableEq

namespace Switch

def takesValue : Switch → Bool
  | .address | .config => true
  | .help | .json | .verbose => false

end Switch

abbrev Spellings := List (Text × Switch)

def helpSpellings : Spellings := [("-h", .help), ("--help", .help)]

def mainSpellings : Spellings :=
  [("-h", .help), ("--help", .help), ("--address", .address), ("--config", .config),
    ("--json", .json), ("-v", .verbose), ("--verbose", .verbose)]

def hyphen : CodePoint := CodePoint.ofChar '-'

/-- Two hyphens alone, which end the options; given for a value, they leave it out. -/
def doubleHyphen : Text := [hyphen, hyphen]

def equalsSign : CodePoint := CodePoint.ofChar '='

/-- What follows the spelling of an option in the same word: a value after a long spelling, letters
after a short one. -/
inductive Joined where
  | nothing
  | value (s : Text)
  | letters (s : Text)

inductive Word where
  | argument
  /-- Two hyphens alone: every word after them is an argument. -/
  | endOfOptions
  | switch (s : Switch) (joined : Joined)
  | ambiguous
  | unknown

def isDecimal (c : CodePoint) : Bool := c.decimalValue?.isSome

/-- Digits of any script, or a point with digits after it and perhaps before it; an LF may
follow. -/
def isUnsignedNumber (s : Text) : Bool :=
  let s := if s.getLast? = some CodePoint.newline then s.dropLast else s
  match Text.splitFirst (CodePoint.ofChar '.') s with
  | (whole, none) => !whole.isEmpty && whole.all isDecimal
  | (whole, some fraction) => whole.all isDecimal && !fraction.isEmpty && fraction.all isDecimal

def isNegativeNumber (s : Text) : Bool :=
  match s with
  | c :: r => c == hyphen && isUnsignedNumber r
  | [] => false

def Spellings.startingWith (known : Spellings) (start : Text) : List Switch :=
  (known.filter fun (name, _) => name.startsWith start).map (·.2)

/-- A word that is no spelling of an option, but starts with a hyphen and has more to it. -/
def readShortened (known : Spellings) (s : Text) : Word :=
  let (name, value) := Text.splitFirst equalsSign s
  let joined : Joined := value.elim .nothing .value
  match known.lookup name, value with
  | some switch, some value =>
    .switch switch (if name.startsWith "--" then .value value else .letters value)
  | _, _ =>
    let found :=
      if s.startsWith "--" then
        (known.startingWith name).map fun switch => Word.switch switch joined
      else
        (known.lookup (s.take 2)).toList.map fun switch => Word.switch switch (.letters (s.drop 2))
    match found with
    | [word] => word
    | _ :: _ :: _ => .ambiguous
    | [] =>
      if isNegativeNumber s || s.contains (CodePoint.ofChar ' ') then .argument else .unknown

def readWord (known : Spellings) (s : Text) : Word :=
  match s with
  | [] => .argument
  | [_] => .argument
  | c :: _ =>
    if c != hyphen then .argument
    else if s = doubleHyphen then .endOfOptions
    else
      match known.lookup s with
      | some switch => .switch switch .nothing
      | none => readShortened known s

def readLetters? (known : Spellings) (letters : Text) : Option (List Switch) :=
  letters.mapM fun c => known.lookup [hyphen, c]

/-- The options without a value in one word. None where the word joins something else to them. -/
def switchesOf? (known : Spellings) (switch : Switch) (joined : Joined) : Option (List Switch) :=
  match joined with
  | .nothing => some [switch]
  | .value _ | .letters [] => none
  | .letters s => (readLetters? known s).map fun more => switch :: more

end NodeClient.CommandLine
