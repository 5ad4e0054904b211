import NodeClient.Link.Connection
import NodeClient.Text.Lines

/-!
A raw session: each line of the input goes to the node as it is, and its reply is printed before the
next line is read.
-/

namespace NodeClient

/-- Where a session prints, and what it shows before it reads a line. -/
structure Terminal where
  prompt : Option Text
  /-- Whether text that has no UTF-8 form is refused. -/
  strict : Bool

namespace RawSession

def promptText : Text := "> "

def ask (t : Terminal) (c : Connection) : Connection :=
  match t.prompt with
  | none => c
  | some prompt => c.note (.wrote prompt)

def print (t : Terminal) (c : Connection) (line : Text) : Outcome Unit × Connection :=
  if t.strict && line.hasSurrogate then (.error (.broke .unencodable), c)
  else (.ok (), c.note (.wrote (line ++ [CodePoint.newline])))

def trade (t : Terminal) (c : Connection) (line : Text) : Outcome Unit × Connection :=
  match c.send line with
  | (.error stop, c) => (.error stop, c)
  | (.ok (), c) =>
    match c.receive with
    | (.error stop, c) => (.error stop, c)
    | (.ok reply, c) => print t c reply

/-- How a session ended, the link then, and the exchanges that were completed. -/
structure Ending where
  outcome : Outcome Nat
  connection : Connection
  exchanged : Nat

/-- A failure of the link ends the session with that failure's exit code. -/
def endedBy (stop : Stop) (c : Connection) (exchanged : Nat) : Ending :=
  match stop with
  | .failed failure =>
    if failure.isTransport then
      ⟨.ok failure.exitCode, c.note (.log .error .raw
        ("Raw session with " ++ c.address ++ " ended after " ++ Text.ofNat exchanged ++
          " exchanges: " ++ failure.message)), exchanged⟩
    else ⟨.error stop, c, exchanged⟩
  | _ => ⟨.error stop, c, exchanged⟩

/-- Exchanges the lines one by one; `exchanged` counts those already done. -/
def run (t : Terminal) (exchanged : Nat) (c : Connection) : List Text → Ending
  | [] =>
    ⟨.ok 0, (ask t c).note (.log .info .raw
      ("End of input after " ++ Text.ofNat exchanged ++ " exchanges")), exchanged⟩
  | line :: rest =>
    match trade t (ask t c) line with
    | (.error stop, c) => endedBy stop c exchanged
    | (.ok (), c) => run t (exchanged + 1) c rest

def runText (t : Terminal) (c : Connection) (input : Text) : Ending :=
  run t 0 c (Text.inputLines input)

/-- A session on a byte stream, with a prompt when a person types it. -/
def runBytes (tty strict : Bool) (c : Connection) (input : Bytes) : Ending :=
  runText ⟨if tty then some promptText else none, strict⟩ c (Text.ofInput input)

end RawSession

end NodeClient
