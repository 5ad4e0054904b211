import NodeClient.Failure
import NodeClient.Number.Binary64

/-!
What a system asks of a dial. The name of the host has to have an encoded form, which is looked up,
and the wait for the link has to fit the clock of the system. What does not comply is no failure of
the link, and nothing in the program expects it.
-/

namespace NodeClient

namespace HostName

/-- The longest label of a name. -/
def longestLabel : Nat := 63

/-- Only the last label may be empty, after a final full stop. -/
def labelsFit : List Text → Bool
  | [] => true
  | [last] => last.length ≤ longestLabel
  | label :: rest => !label.isEmpty && label.length ≤ longestLabel && labelsFit rest

/-- Whether a name has an encoded form. Names beyond ASCII go through the tables of string
preparation, which are no part of this model: `prepares` stands for them. -/
def encodes (prepares : Text → Bool) (host : Text) : Bool :=
  if host.all CodePoint.isAscii then labelsFit (Text.splitAll (CodePoint.ofChar '.') host)
  else prepares host

def breakdown : Breakdown := .stated "UnicodeError"

end HostName

inductive WaitFault where
  | notNumber
  | negative
  | tooLong
deriving DecidableEq

namespace WaitFault

def breakdown : WaitFault → Breakdown
  | .notNumber | .negative => .stated "ValueError"
  | .tooLong => .stated "OverflowError"

end WaitFault

namespace Wait

def nanosecondsPerSecond : Binary64 := Binary64.ofFraction false 1000000000 1

/-- The longest wait, in nanoseconds: as many milliseconds as a signed number of 32 bits can say. -/
def longest : Nat := 2147483647 * 1000000

/-- The clock counts up to so many nanoseconds. -/
def clockEnd : Nat := Nat.pow 2 63

/-- What is wrong with a wait of so many seconds. It is counted in nanoseconds first, and rounded
away from zero. -/
def fault? (seconds : Binary64) : Option WaitFault :=
  match seconds.mul nanosecondsPerSecond with
  | .nan => some .notNumber
  | .infinite _ => some .tooLong
  | .finite negative m e =>
    let (num, den) := Binary64.magnitude m e
    if negative && m != 0 then some (if clockEnd * den < num then .tooLong else .negative)
    else if longest * den < num then some .tooLong
    else none

end Wait

/-- What stands in the way of a dial: a fault that it meets, or the system that carries it out. The
system looks the host up, then waits for the link; the fault of the look-up says that no socket came
out of it. -/
inductive Obstacle where
  | fault (cause : Cause)
  | system (prepares : Text → Bool) (lookupFault linkFault : Option Cause)

instance : Coe Cause Obstacle := ⟨.fault⟩

namespace Obstacle

/-- How a fault ends the dial of an address. -/
def stopOf (dialed : Text) (cause : Cause) : Stop :=
  if cause.isInterrupt then .interrupted else .failed (.connect dialed cause)

/-- What ends a dial before there is a link, if anything does. -/
def stop? (dialed host : Text) (timeout : Binary64) : Obstacle → Option Stop
  | .fault cause => some (stopOf dialed cause)
  | .system prepares lookupFault linkFault =>
    if HostName.encodes prepares host then
      match lookupFault, Wait.fault? timeout with
      | some cause, _ => some (stopOf dialed cause)
      | none, some wrong => some (.broke wrong.breakdown)
      | none, none => linkFault.map (stopOf dialed)
    else some (.broke HostName.breakdown)

end Obstacle

end NodeClient
