import NodeClient.Text.Basic

/-!
Positions in a YAML text. Lines end at LF, CR, CR LF, U+0085, U+2028 and U+2029; a byte order mark
takes no column.
-/

namespace NodeClient.Yaml

structure Mark where
  index : Nat
  line : Nat
  column : Nat
deriving DecidableEq

structure Cursor where
  rest : Text
  mark : Mark

def nul : CodePoint := ⟨0, Nat.zero_lt_succ _⟩

def isBreakCode (n : Nat) : Bool :=
  n == 0x0A || n == 0x0D || n == 0x85 || n == 0x2028 || n == 0x2029

/-- Line breaks, and the end of the text. -/
def isBreakOrEnd (c : CodePoint) : Bool := isBreakCode c.val || c.val == 0

def isBreak (c : CodePoint) : Bool := isBreakCode c.val

def isSpace (c : CodePoint) : Bool := c.val == 0x20

def isSpaceOrTab (c : CodePoint) : Bool := c.val == 0x20 || c.val == 0x09

def isSpaceOrBreak (c : CodePoint) : Bool := isSpace c || isBreak c

/-- Spaces, line breaks and the end, but no tabs. -/
def isSpaceBreakOrEnd (c : CodePoint) : Bool := isSpace c || isBreakOrEnd c

/-- Spaces, tabs, line breaks and the end. -/
def isGapOrEnd (c : CodePoint) : Bool := isSpaceOrTab c || isBreakOrEnd c

namespace Cursor

def start (s : Text) : Cursor := ⟨s, ⟨0, 0, 0⟩⟩

/-- The code point `k` places ahead; NUL past the end. -/
def peek (c : Cursor) (k : Nat) : CodePoint := c.rest[k]?.getD nul

def head (c : Cursor) : CodePoint := c.peek 0

/-- Whether the cursor leaves a line behind when it passes `c` before `next`. -/
def endsLine (c : CodePoint) (next : Option CodePoint) : Bool :=
  c.val == 0x0A || c.val == 0x85 || c.val == 0x2028 || c.val == 0x2029 ||
    (c.val == 0x0D && next != some CodePoint.newline)

def next (c : Cursor) : Cursor :=
  match c.rest with
  | [] => c
  | d :: rest =>
    let m := c.mark
    let m :=
      if endsLine d rest.head? then ⟨m.index + 1, m.line + 1, 0⟩
      else if d = CodePoint.byteOrderMark then ⟨m.index + 1, m.line, m.column⟩
      else ⟨m.index + 1, m.line, m.column + 1⟩
    ⟨rest, m⟩

def skip : Nat → Cursor → Cursor
  | 0, c => c
  | n + 1, c => skip n c.next

/-- How many code points from here on satisfy `p`. -/
def span (p : CodePoint → Bool) (c : Cursor) : Nat := (c.rest.takeWhile p).length

def skipWhile (p : CodePoint → Bool) (c : Cursor) : Cursor := skip (c.span p) c

/-- The next code points up to the first that does not satisfy `p`, and the place after them. -/
def takeWhile (p : CodePoint → Bool) (c : Cursor) : Text × Cursor :=
  (c.rest.takeWhile p, c.skipWhile p)

def lineBreak (c : Cursor) : Text × Cursor :=
  let d := c.head
  if d.val = 0x0D && c.peek 1 = CodePoint.newline then ([CodePoint.newline], c.skip 2)
  else if d.val = 0x0A || d.val = 0x0D || d.val = 0x85 then ([CodePoint.newline], c.next)
  else if d.val = 0x2028 || d.val = 0x2029 then ([d], c.next)
  else ([], c)

/-- Three equal marks at the start of what follows, with a gap after them. -/
def atMarks (c : Cursor) (mark : CodePoint) : Bool :=
  c.peek 0 == mark && c.peek 1 == mark && c.peek 2 == mark && isGapOrEnd (c.peek 3)

/-- `---` or `...` before a gap. -/
def atSeparator (c : Cursor) : Bool :=
  c.atMarks (CodePoint.ofChar '-') || c.atMarks (CodePoint.ofChar '.')

end Cursor

end NodeClient.Yaml
