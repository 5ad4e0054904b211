import NodeClient.Failure
import NodeClient.Text.Blank
import NodeClient.Number.Numeral

/-!
Hashes of blocks and pointers to transaction outputs. A pointer is written as the 64 hexadecimal
digits of a transaction id, a colon and the index of the output.
-/

namespace NodeClient

def isHash (s : Text) : Bool := s.length == 64 && s.all CodePoint.isHexDigit

/-- The hash in small letters; `what` names it in the failure. -/
def readHash (what raw : Text) : Except ArgumentFault Text :=
  let candidate := Text.strip raw
  if isHash candidate then .ok (Text.lowerAscii candidate) else .error (.hash what raw)

def bytesOfHex : Text → Bytes
  | high :: low :: rest =>
    UInt8.ofNat (high.hexValue?.getD 0 * 16 + low.hexValue?.getD 0) :: bytesOfHex rest
  | _ => []

def hexOfBytes (bytes : Bytes) : Text := bytes.flatMap fun b => Text.hex 2 b.toNat

structure OutputPointer where
  transactionId : Bytes
  outputIndex : Nat
  length_eq : transactionId.length = 32
deriving DecidableEq

namespace OutputPointer

def make (transactionId : Bytes) (outputIndex : Int) : Except ArgumentFault OutputPointer :=
  if h : transactionId.length = 32 then
    if outputIndex < 0 then .error .outputIndexNegative
    else .ok ⟨transactionId, outputIndex.toNat, h⟩
  else .error .transactionIdLength

/-- The index is written out in full. A runtime that bounds the digits of the numbers it writes (to
4300) breaks on a longer one, and that is left out here: `read` gives none. -/
def text (p : OutputPointer) : Text :=
  hexOfBytes p.transactionId ++ CodePoint.ofChar ':' :: Text.ofNat p.outputIndex

def read (raw : Text) : Outcome OutputPointer :=
  match Text.splitFirst (CodePoint.ofChar ':') (Text.strip raw) with
  | (_, none) => .error (.failed (.arguments (.pointerShape raw)))
  | (hex, some digits) =>
    if !isHash hex then .error (.failed (.arguments (.transactionId hex)))
    else if digits.isEmpty || !digits.all CodePoint.isDigit then
      .error (.failed (.arguments (.outputIndex digits)))
    else match Numeral.natural? digits with
      | none => .error (.broke .longInteger)
      | some index => (make (bytesOfHex hex) index).mapError fun fault => .failed (.arguments fault)

end OutputPointer

end NodeClient
