import NodeClient.CommandLine.Word
import NodeClient.Rpc.Method

/-!
What a command line asks for: options, then a command, then what the command takes.
-/

namespace NodeClient

/-- What a command line says for an option with a value. -/
inductive OptionValue where
  | absent
  /-- The option is there, but nothing is given for its value. -/
  | blank
  | text (s : Text)

structure Options where
  address : OptionValue
  config : OptionValue
  json : Bool
  verbose : Bool

inductive Command where
  | raw
  | blockChain (epoch limit : Option Int)
  | block (hash : Text)
  | output (pointer : Text)
  | syncStatus
  | inventory (item : Text)

structure Invocation where
  options : Options
  command : Command

/-- Why nothing is run: help was asked for, or the words make no sense. -/
inductive Refusal where
  | help
  | usage
deriving DecidableEq

def Refusal.exitCode : Refusal → Nat
  | .help => 0
  | .usage => 2

namespace CommandLine

abbrev Reading := Except Refusal

/-- What a command takes: nothing, one text, or up to two integers. -/
inductive Operands where
  | none
  | one
  | upToTwoIntegers
deriving DecidableEq

namespace Operands

def most : Operands → Nat
  | .none => 0
  | .one => 1
  | .upToTwoIntegers => 2

def admits : Operands → Text → Bool
  | .upToTwoIntegers, s => (Numeral.integer? s).isSome
  | _, _ => true

end Operands

/-- The operands among the words after a command, and whether some words have no place. `room` is
the number of operands still welcome; an option that is not known closes a run of operands. Two
hyphens leave an operand out when it is not the first. -/
def readOperands (o : Operands) (ended : Bool) (room : Nat) (strange : Bool) :
    List Text → Reading (List Text × Bool)
  | [] => .ok ([], strange)
  | w :: rest =>
    match if ended then .argument else readWord helpSpellings w with
    | .argument =>
      match room with
      | 0 => readOperands o ended 0 true rest
      | room + 1 =>
        if w = doubleHyphen && room + 1 < o.most then readOperands o ended room strange rest
        else if o.admits w then
          (readOperands o ended room strange rest).map fun (more, strange) => (w :: more, strange)
        else .error .usage
    | .endOfOptions => readOperands o true room (strange || o.most == 0) rest
    | .unknown => readOperands o ended (if room < o.most then 0 else room) true rest
    | .ambiguous => .error .usage
    | .switch switch joined =>
      if (switchesOf? helpSpellings switch joined).isSome then .error .help else .error .usage

/-- The word for a session of raw lines; the other commands are methods of the node. -/
def rawWord : Text := "raw"

def operandsOf : Method → Operands
  | .blockChain => .upToTwoIntegers
  | .block | .output | .inventory => .one
  | .syncStatus => .none

def commandOf? : Method → List Text → Option Command
  | .blockChain, [] => some (.blockChain none none)
  | .blockChain, [epoch] => some (.blockChain (Numeral.integer? epoch) none)
  | .blockChain, [epoch, limit] =>
    some (.blockChain (Numeral.integer? epoch) (Numeral.integer? limit))
  | .block, [hash] => some (.block hash)
  | .output, [pointer] => some (.output pointer)
  | .syncStatus, [] => some .syncStatus
  | .inventory, [item] => some (.inventory item)
  | _, _ => none

def placed (o : Operands) (words : List Text) : Reading (List Text) := do
  let (operands, strange) ← readOperands o false o.most false words
  if strange then .error .usage else pure operands

def readCommand (name : Text) (words : List Text) : Reading Command := do
  if name = rawWord then
    let _ ← placed .none words
    pure .raw
  else
    match Method.ofName? name with
    | none => .error .usage
    | some m =>
      let operands ← placed (operandsOf m) words
      match commandOf? m operands with
      | some command => pure command
      | none => .error .usage

def noOptions : Options := ⟨.absent, .absent, false, false⟩

/-- Options without a value take effect one by one. -/
def applySwitches (o : Options) : List Switch → Reading Options
  | [] => .ok o
  | .help :: _ => .error .help
  | .json :: rest => applySwitches { o with json := true } rest
  | .verbose :: rest => applySwitches { o with verbose := true } rest
  | .address :: rest | .config :: rest => applySwitches o rest

def valueOf (s : Text) : OptionValue := if s = doubleHyphen then .blank else .text s

def setValue (o : Options) (switch : Switch) (s : Text) : Options :=
  match switch with
  | .address => { o with address := valueOf s }
  | .config => { o with config := valueOf s }
  | .help | .json | .verbose => o

/-- Reads the words from an option or a command on. `awaiting` is an option whose value comes next;
`strange` says that an earlier word has no place. -/
def readMain (o : Options) (awaiting : Option Switch) (strange : Bool) :
    List Text → Reading Invocation
  | [] => .error .usage
  | w :: rest =>
    match awaiting, readWord mainSpellings w with
    | some switch, .argument => readMain (setValue o switch w) none strange rest
    | some _, _ => .error .usage
    | none, .argument => do
      let command ← readCommand w rest
      if strange then .error .usage else pure ⟨o, command⟩
    | none, .endOfOptions => .error .usage
    | none, .ambiguous => .error .usage
    | none, .unknown => readMain o none true rest
    | none, .switch switch joined =>
      match switch.takesValue, joined with
      | true, .value s => readMain (setValue o switch s) none strange rest
      | true, _ => readMain o (some switch) strange rest
      | false, joined =>
        match switchesOf? mainSpellings switch joined with
        | none => .error .usage
        | some switches =>
          match applySwitches o switches with
          | .error refusal => .error refusal
          | .ok o => readMain o none strange rest

def isAmbiguous (w : Text) : Bool :=
  match readWord mainSpellings w with
  | .ambiguous => true
  | _ => false

def isEndOfOptions (w : Text) : Bool :=
  match readWord mainSpellings w with
  | .endOfOptions => true
  | _ => false

/-- A word that is short for several options spoils the command line wherever it stands. -/
def read (words : List Text) : Reading Invocation :=
  if (words.takeWhile fun w => !isEndOfOptions w).any isAmbiguous then .error .usage
  else readMain noOptions none false words

end CommandLine

end NodeClient
