import NodeClient.Text.Basic

/-!
UTF-8. A byte sequence splits into characters and invalid parts, each part as long as some character
begins that way. Three decoders treat the invalid parts differently: one fails, one puts a
replacement mark for each part, one keeps each byte as a lone surrogate that the matching encoder
turns back into the byte.
-/

namespace NodeClient

namespace Utf8

/-- A character, or the bytes of a maximal invalid part. -/
inductive Piece where
  | char (c : CodePoint)
  | invalid (part : Bytes)
deriving DecidableEq

def isContinuation (b : UInt8) : Bool := 0x80 ≤ b.toNat && b.toNat < 0xC0

/-- The second bytes that may follow a lead byte of a sequence of three or four bytes. -/
def mayFollow (lead second : UInt8) : Bool :=
  isContinuation second &&
    (if lead.toNat == 0xE0 then 0xA0 ≤ second.toNat
     else if lead.toNat == 0xED then second.toNat < 0xA0
     else if lead.toNat == 0xF0 then 0x90 ≤ second.toNat
     else if lead.toNat == 0xF4 then second.toNat < 0x90
     else true)

def payload (b : UInt8) : Nat := b.toNat % 64

/-- The code point of a well-formed sequence. -/
def assemble (n : Nat) (part : Bytes) : Piece :=
  match CodePoint.ofNat? n with
  | some c => .char c
  | none => .invalid part

/-- The piece that begins with `a`, and how many of the bytes after it belong to it. -/
def headPiece (a : UInt8) (rest : Bytes) : Piece × Nat :=
  if a.toNat < 0x80 then (.char (CodePoint.ofByte a), 0)
  else if 0xC2 ≤ a.toNat && a.toNat < 0xE0 then
    match rest with
    | b :: _ =>
      if isContinuation b then (assemble (a.toNat % 32 * 64 + payload b) [a, b], 1)
      else (.invalid [a], 0)
    | [] => (.invalid [a], 0)
  else if 0xE0 ≤ a.toNat && a.toNat < 0xF0 then
    match rest with
    | b :: c :: _ =>
      if !mayFollow a b then (.invalid [a], 0)
      else if isContinuation c then
        (assemble ((a.toNat % 16 * 64 + payload b) * 64 + payload c) [a, b, c], 2)
      else (.invalid [a, b], 1)
    | [b] => if mayFollow a b then (.invalid [a, b], 1) else (.invalid [a], 0)
    | [] => (.invalid [a], 0)
  else if 0xF0 ≤ a.toNat && a.toNat < 0xF5 then
    match rest with
    | b :: c :: d :: _ =>
      if !mayFollow a b then (.invalid [a], 0)
      else if !isContinuation c then (.invalid [a, b], 1)
      else if isContinuation d then
        (assemble (((a.toNat % 8 * 64 + payload b) * 64 + payload c) * 64 + payload d)
          [a, b, c, d], 3)
      else (.invalid [a, b, c], 2)
    | [b, c] =>
      if !mayFollow a b then (.invalid [a], 0)
      else if isContinuation c then (.invalid [a, b, c], 2)
      else (.invalid [a, b], 1)
    | [b] => if mayFollow a b then (.invalid [a, b], 1) else (.invalid [a], 0)
    | [] => (.invalid [a], 0)
  else (.invalid [a], 0)

/-- The pieces after the first `skip` bytes. -/
def piecesFrom : (skip : Nat) → Bytes → List Piece
  | _, [] => []
  | skip + 1, _ :: rest => piecesFrom skip rest
  | 0, a :: rest => (headPiece a rest).1 :: piecesFrom (headPiece a rest).2 rest

def pieces (bytes : Bytes) : List Piece := piecesFrom 0 bytes

def Piece.text? : Piece → Option CodePoint
  | .char c => some c
  | .invalid _ => none

/-- Fails at the first invalid part. -/
def decode? (bytes : Bytes) : Option Text := (pieces bytes).mapM Piece.text?

def Piece.replaced : Piece → CodePoint
  | .char c => c
  | .invalid _ => CodePoint.replacement

/-- One replacement mark for each invalid part. -/
def decodeReplacing (bytes : Bytes) : Text := (pieces bytes).map Piece.replaced

/-- The lone surrogate that stands for a byte from 0x80 on. -/
def smuggled (b : UInt8) : CodePoint :=
  ⟨0xDC00 + b.toNat, by have := b.toNat_lt; omega⟩

def Piece.smuggling : Piece → Text
  | .char c => [c]
  | .invalid part => part.map smuggled

/-- Every byte of an invalid part becomes its lone surrogate. -/
def decodeSmuggling (bytes : Bytes) : Text := (pieces bytes).flatMap Piece.smuggling

/-- The bytes of a code point by the plain scheme, surrogates included. -/
def encodeCodePoint (c : CodePoint) : Bytes :=
  let byte (n : Nat) : UInt8 := UInt8.ofNat n
  if c.val < 0x80 then [byte c.val]
  else if c.val < 0x800 then [byte (0xC0 + c.val / 64), byte (0x80 + c.val % 64)]
  else if c.val < 0x10000 then
    [byte (0xE0 + c.val / 4096), byte (0x80 + c.val / 64 % 64), byte (0x80 + c.val % 64)]
  else
    [byte (0xF0 + c.val / 262144), byte (0x80 + c.val / 4096 % 64),
      byte (0x80 + c.val / 64 % 64), byte (0x80 + c.val % 64)]

/-- Surrogates have no encoding. -/
def encode? (s : Text) : Option Bytes :=
  if s.hasSurrogate then none else some (s.flatMap encodeCodePoint)

def smuggledByte? (c : CodePoint) : Option UInt8 :=
  if 0xDC80 ≤ c.val && c.val < 0xDD00 then some (UInt8.ofNat (c.val - 0xDC00)) else none

def encodeOneSmuggling? (c : CodePoint) : Option Bytes :=
  if c.isSurrogate then (smuggledByte? c).map fun b => [b] else some (encodeCodePoint c)

/-- Turns the surrogates that stand for bytes back into them; other surrogates have no encoding. -/
def encodeSmuggling? (s : Text) : Option Bytes :=
  (s.mapM encodeOneSmuggling?).map List.flatten

end Utf8

end NodeClient
