import NodeClient.Text.Basic

/-!
Base64, read leniently: code points outside the alphabet are passed over, and a pad that completes a
group of four ends the data.
-/

namespace NodeClient.Base64

inductive Fault where
  /-- One digit is left over after the groups that hold `bytes` bytes. -/
  | loneDigit (bytes : Nat)
  | padding
deriving DecidableEq

def pad : CodePoint := CodePoint.ofChar '='

def digit? (c : CodePoint) : Option Nat :=
  if c.isUpper then some (c.val - 0x41)
  else if c.isLower then some (c.val - 0x61 + 26)
  else if c.isDigit then some (c.val - 0x30 + 52)
  else if c = CodePoint.ofChar '+' then some 62
  else if c = CodePoint.ofChar '/' then some 63
  else none

/-- The digits before a closing pad or the end, and whether there was such a pad. `held` counts the
digits of the group at hand, `pads` the pads since the last digit. -/
def digits (held pads : Nat) : Text → List Nat × Bool
  | [] => ([], false)
  | c :: s =>
    if c = pad then
      if 2 ≤ held then
        if 4 ≤ held + (pads + 1) then ([], true) else digits held (pads + 1) s
      else digits held pads s
    else
      match digit? c with
      | none => digits held pads s
      | some d =>
        match digits ((held + 1) % 4) 0 s with
        | (ds, closed) => (d :: ds, closed)

/-- Three bytes for four digits; two or three digits at the end give one or two. -/
def assemble : List Nat → Bytes
  | a :: b :: c :: d :: rest =>
    UInt8.ofNat (a * 4 + b / 16) :: UInt8.ofNat (b % 16 * 16 + c / 4) ::
      UInt8.ofNat (c % 4 * 64 + d) :: assemble rest
  | [a, b, c] => [UInt8.ofNat (a * 4 + b / 16), UInt8.ofNat (b % 16 * 16 + c / 4)]
  | [a, b] => [UInt8.ofNat (a * 4 + b / 16)]
  | _ => []

def decode (s : Text) : Except Fault Bytes :=
  let (ds, closed) := digits 0 0 s
  let bytes := assemble ds
  if closed || ds.length % 4 = 0 then .ok bytes
  else if ds.length % 4 = 1 then .error (.loneDigit bytes.length)
  else .error .padding

def Fault.text : Fault → Text
  | .loneDigit bytes =>
    "Invalid base64-encoded string: number of data characters (" ++
      Text.ofNat (bytes / 3 * 4 + 1) ++ ") cannot be 1 more than a multiple of 4"
  | .padding => "Incorrect padding"

end NodeClient.Base64
