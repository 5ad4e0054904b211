import NodeClient.Yaml.Token
import NodeClient.Text.Utf8

/-!
Scalars, tags, anchors and directives as they are written. Every reader starts at a cursor and gives
what it read together with the place after it.
-/

namespace NodeClient.Yaml

def faultAt {α : Type} (activity : Activity) (start : Mark) (problem : Problem) (c : Cursor) :
    Scan α :=
  .error (.fault ⟨some (activity, some start), problem, some c.mark⟩)

def isNameMark (c : CodePoint) : Bool := c.isDigit || c.isLetter || c.val == 0x2D || c.val == 0x5F

def isUriMark (c : CodePoint) : Bool :=
  c.isDigit || c.isLetter ||
    [0x2D, 0x3B, 0x2F, 0x3F, 0x3A, 0x40, 0x26, 0x3D, 0x2B, 0x24, 0x2C, 0x5F, 0x2E, 0x21, 0x7E, 0x2A,
      0x27, 0x28, 0x29, 0x5B, 0x5D].contains c.val

namespace Cursor

def skipComment (c : Cursor) : Cursor :=
  if c.head = CodePoint.ofChar '#' then c.skipWhile fun d => !isBreak d else c

/-- Past spaces and a comment to the end of the line, which has to follow. -/
def restOfLine (c : Cursor) (activity : Activity) (start : Mark) : Scan Cursor :=
  let c := (c.skipWhile isSpace).skipComment
  if isBreakOrEnd c.head then .ok c.lineBreak.2
  else faultAt activity start (.expectedCommentOrBreak c.head) c

end Cursor

/-! Anchors and aliases -/

def isAfterName (c : CodePoint) : Bool :=
  isGapOrEnd c || [0x3F, 0x3A, 0x2C, 0x5D, 0x7D, 0x25, 0x40, 0x60].contains c.val

def scanName (c : Cursor) : Scan (Text × Cursor) :=
  let start := c.mark
  let activity : Activity := if c.head = CodePoint.ofChar '*' then .alias else .anchor
  let (name, after) := c.next.takeWhile isNameMark
  if name.isEmpty || !isAfterName after.head then
    faultAt activity start (.expectedName after.head) after
  else .ok (name, after)

/-! Tags -/

/-- A tag handle: `!`, `!!` or `!name!`. -/
def scanHandle (c : Cursor) (activity : Activity) (start : Mark) : Scan (Text × Cursor) :=
  let bang := CodePoint.ofChar '!'
  if c.head != bang then faultAt activity start (.expectedBang c.head) c
  else if isSpace (c.peek 1) then .ok ([bang], c.next)
  else
    let (name, after) := c.next.takeWhile isNameMark
    if after.head != bang then faultAt activity start (.expectedBang after.head) after
    else .ok (bang :: name ++ [bang], after.next)

def scanEscapedBytes (activity : Activity) (start : Mark) :
    (fuel : Nat) → Cursor → Scan (Bytes × Cursor)
  | 0, c => .ok ([], c)
  | fuel + 1, c =>
    if c.head != CodePoint.ofChar '%' then .ok ([], c)
    else
      let c := c.next
      match (c.peek 0).hexValue?, (c.peek 1).hexValue? with
      | some high, some low => do
        let (bytes, c) ← scanEscapedBytes activity start fuel (c.skip 2)
        pure (UInt8.ofNat (high * 16 + low) :: bytes, c)
      | none, _ => faultAt activity start (.expectedUriDigits (c.peek 0)) c
      | _, none => faultAt activity start (.expectedUriDigits (c.peek 1)) c

/-- The text of a URI with its escapes decoded; `activity` is for escapes. -/
def scanUriPieces (activity : Activity) (start : Mark) :
    (fuel : Nat) → Cursor → Scan (Text × Cursor)
  | 0, c => .ok ([], c)
  | fuel + 1, c =>
    let (plain, after) := c.takeWhile isUriMark
    if after.head != CodePoint.ofChar '%' then .ok (plain, after)
    else do
      let (bytes, rest) ← scanEscapedBytes activity start after.rest.length after
      match Utf8.decode? bytes with
      | none => faultAt activity start .undecodableUri after
      | some escaped =>
        let (more, c) ← scanUriPieces activity start fuel rest
        pure (plain ++ escaped ++ more, c)

def scanUri (c : Cursor) (escapes empty : Activity) (start : Mark) : Scan (Text × Cursor) := do
  let (uri, after) ← scanUriPieces escapes start (c.rest.length + 1) c
  if after.mark.index = c.mark.index then faultAt empty start (.expectedUri after.head) after
  else pure (uri, after)

/-- Whether a `!` comes before the next space or line break. -/
def hasHandle (c : Cursor) : Bool :=
  (c.rest.takeWhile fun d => !(isSpace d || isBreak d)).contains (CodePoint.ofChar '!')

def scanTag (c : Cursor) : Scan (Option Text × Text × Cursor) := do
  let start := c.mark
  let bang := CodePoint.ofChar '!'
  let (handle, suffix, after) ←
    if c.peek 1 = CodePoint.ofChar '<' then do
      let (uri, after) ← scanUri (c.skip 2) .tag .tagUri start
      if after.head != CodePoint.ofChar '>' then
        faultAt .tagUri start (.expectedClosing after.head) after
      else pure (none, uri, after.next)
    else if isGapOrEnd (c.peek 1) then pure (none, [bang], c.next)
    else do
      let (handle, after) ←
        if hasHandle c.next then scanHandle c .tag start else pure ([bang], c.next)
      let (uri, after) ← scanUri after .tag .tagUri start
      pure (some handle, uri, after)
  if isSpaceBreakOrEnd after.head then pure (handle, suffix, after)
  else faultAt .tag start (.expectedSpace after.head) after

/-! Directives -/

def scanVersionNumber (c : Cursor) (start : Mark) : Scan (Nat × Cursor) :=
  let (digits, after) := c.takeWhile CodePoint.isDigit
  if digits.isEmpty then faultAt .directive start (.expectedDigit c.head) c
  else if maxDigits < digits.length then .error (.broke .longInteger)
  else .ok (digits.foldl (fun n d => n * 10 + (d.val - 0x30)) 0, after)

def scanVersion (c : Cursor) (start : Mark) : Scan (DirectiveValue × Cursor) := do
  let (major, after) ← scanVersionNumber (c.skipWhile isSpace) start
  if after.head != CodePoint.ofChar '.' then
    faultAt .directive start (.expectedDigitOrDot after.head) after
  else
    let (_, after) ← scanVersionNumber after.next start
    if isSpaceBreakOrEnd after.head then pure (.yaml major, after)
    else faultAt .directive start (.expectedDigitOrSpace after.head) after

def scanTagDirective (c : Cursor) (start : Mark) : Scan (DirectiveValue × Cursor) := do
  let (handle, after) ← scanHandle (c.skipWhile isSpace) .directive start
  if !isSpace after.head then faultAt .directive start (.expectedSpace after.head) after
  else
    let (uri, after) ← scanUri (after.skipWhile isSpace) .directive .directiveUri start
    if isSpaceBreakOrEnd after.head then pure (.tag handle uri, after)
    else faultAt .directive start (.expectedSpace after.head) after

/-- A directive, the place where it ends, and the place after its line. -/
def scanDirective (c : Cursor) : Scan (DirectiveValue × Mark × Cursor) := do
  let start := c.mark
  let (name, after) := c.next.takeWhile isNameMark
  if name.isEmpty || !isSpaceBreakOrEnd after.head then
    faultAt .directive start (.expectedName after.head) after
  else
    let (value, after) ←
      if name = ("YAML" : Text) then scanVersion after start
      else if name = ("TAG" : Text) then scanTagDirective after start
      else pure (.other, after)
    let stop := after.mark
    let after :=
      match value with
      | .other => after.skipWhile fun d => !isBreak d
      | _ => after
    pure (value, stop, ← after.restOfLine .directive start)

/-! Quoted scalars -/

/-- Line breaks inside a quoted scalar, blanks around them dropped. -/
def scanQuotedBreaks (start : Mark) : (fuel : Nat) → Cursor → Scan (Text × Cursor)
  | 0, c => .ok ([], c)
  | fuel + 1, c =>
    if c.atSeparator then faultAt .quoted start .documentSeparator c
    else
      let c := c.skipWhile isSpaceOrTab
      if isBreak c.head then do
        let (broken, c) := c.lineBreak
        let (more, c) ← scanQuotedBreaks start fuel c
        pure (broken ++ more, c)
      else .ok ([], c)

/-- What a line break and those after it add to a scalar: a single LF folds to a space. -/
def folded (first more : Text) : Text :=
  if first != [CodePoint.newline] then first ++ more
  else if more.isEmpty then [CodePoint.ofChar ' ']
  else more

/-- The blanks, or the folded line breaks, inside a quoted scalar. -/
def scanQuotedSpaces (start : Mark) (c : Cursor) : Scan (Text × Cursor) :=
  let (blanks, c) := c.takeWhile isSpaceOrTab
  if c.rest.isEmpty then faultAt .quoted start .endOfStream c
  else if isBreak c.head then do
    let (broken, c) := c.lineBreak
    let (more, c) ← scanQuotedBreaks start c.rest.length.succ c
    pure (folded broken more, c)
  else .ok (blanks, c)

/-- Letters after a backslash in double quotes and the code points they stand for. -/
def namedEscapes : List (Nat × Nat) :=
  [(0x30, 0x00), (0x61, 0x07), (0x62, 0x08), (0x74, 0x09), (0x09, 0x09), (0x6E, 0x0A), (0x76, 0x0B),
    (0x66, 0x0C), (0x72, 0x0D), (0x65, 0x1B), (0x20, 0x20), (0x22, 0x22), (0x5C, 0x5C),
    (0x2F, 0x2F), (0x4E, 0x85), (0x5F, 0xA0), (0x4C, 0x2028), (0x50, 0x2029)]

/-- Letters after a backslash that take a number of hexadecimal digits. -/
def numberedEscapes : List (Nat × Nat) := [(0x78, 2), (0x75, 4), (0x55, 8)]

/-- The code point of a numbered escape whose digits start at the cursor. -/
def scanNumberedEscape (start : Mark) (count : Nat) (c : Cursor) : Scan (CodePoint × Cursor) :=
  let digits := c.rest.take count
  let good := digits.takeWhile CodePoint.isHexDigit
  if good.length < count then
    faultAt .doubleQuoted start (.expectedEscapeDigits count (c.peek good.length)) c
  else
    let n := digits.foldl (fun n d => n * 16 + d.hexValue?.getD 0) 0
    match CodePoint.ofNat? n with
    | some d => .ok (d, c.skip count)
    | none => .error (.broke (if n < 0x80000000 then .malformedScalar else .numberTooLarge))

/-- An escape in double quotes; the cursor stands after the backslash. -/
def scanEscape (start : Mark) (c : Cursor) : Scan (Text × Cursor) :=
  let d := c.head
  match namedEscapes.lookup d.val with
  | some n => .ok (((CodePoint.ofNat? n).toList), c.next)
  | none =>
    match numberedEscapes.lookup d.val with
    | some count => do
      let (e, c) ← scanNumberedEscape start count c.next
      pure ([e], c)
    | none =>
      if isBreak d then scanQuotedBreaks start c.rest.length.succ c.lineBreak.2
      else faultAt .doubleQuoted start (.unknownEscape d) c

def isQuotedStop (c : CodePoint) : Bool :=
  isGapOrEnd c || c = CodePoint.quote || c = CodePoint.apostrophe || c = CodePoint.backslash

def scanQuotedText (double : Bool) (start : Mark) : (fuel : Nat) → Cursor → Scan (Text × Cursor)
  | 0, c => faultAt .quoted start .endOfStream c
  | fuel + 1, c =>
    let (plain, c) := c.takeWhile fun d => !isQuotedStop d
    let d := c.head
    let step : Scan (Option (Text × Cursor)) :=
      if !double && d = CodePoint.apostrophe && c.peek 1 = CodePoint.apostrophe then
        .ok (some ([d], c.skip 2))
      else if d = (if double then CodePoint.quote else CodePoint.apostrophe) then .ok none
      else if double && d = CodePoint.backslash then
        (scanEscape start c.next).map some
      else if d = CodePoint.quote || d = CodePoint.apostrophe || d = CodePoint.backslash then
        .ok (some ([d], c.next))
      else (scanQuotedSpaces start c).map some
    do
      match ← step with
      | none => pure (plain, c.next)
      | some (piece, c) =>
        let (more, c) ← scanQuotedText double start fuel c
        pure (plain ++ piece ++ more, c)

def scanQuoted (c : Cursor) : Scan (Text × Cursor) :=
  scanQuotedText (c.head = CodePoint.quote) c.mark (c.rest.length + 1) c.next

/-! Block scalars -/

/-- What is done with the line breaks at the end of a block scalar. -/
inductive Chomping where
  | strip
  | clip
  | keep
deriving DecidableEq

def scanChomping (c : Cursor) : Option Chomping × Cursor :=
  if c.head = CodePoint.ofChar '+' then (some .keep, c.next)
  else if c.head = CodePoint.ofChar '-' then (some .strip, c.next)
  else (none, c)

def scanIncrement (c : Cursor) (start : Mark) : Scan (Option Nat × Cursor) :=
  if c.head.isDigit then
    if c.head.val = 0x30 then faultAt .blockScalar start .zeroIndentation c
    else .ok (some (c.head.val - 0x30), c.next)
  else .ok (none, c)

/-- The chomping and indentation indicators, in either order. -/
def scanIndicators (c : Cursor) (start : Mark) : Scan (Chomping × Option Nat × Cursor) := do
  let (chomping, c) := scanChomping c
  let (increment, c) ← scanIncrement c start
  let (chomping, c) :=
    match chomping, increment with
    | none, some _ => scanChomping c
    | _, _ => (chomping, c)
  if isSpaceBreakOrEnd c.head then pure (chomping.getD .clip, increment, c)
  else faultAt .blockScalar start (.expectedIndicators c.head) c

/-- Leading empty lines, and the widest indentation among them and of the first line of text. -/
def scanBlockIndentation (c : Cursor) : (fuel : Nat) → (widest : Nat) → (stop : Mark) →
    Text × Nat × Mark × Cursor
  | 0, widest, stop => ([], widest, stop, c)
  | fuel + 1, widest, stop =>
    if isBreak c.head then
      let (broken, c) := c.lineBreak
      let (more, rest) := scanBlockIndentation c fuel widest c.mark
      (broken ++ more, rest)
    else if isSpace c.head then
      scanBlockIndentation c.next fuel (max widest c.next.mark.column) stop
    else ([], widest, stop, c)

def skipIndent (indent : Nat) (c : Cursor) : Cursor :=
  c.skip (min (c.span isSpace) (indent - c.mark.column))

/-- Line breaks between lines of a block scalar, and the place after the last of them. -/
def scanBlockBreaks (indent : Nat) (c : Cursor) :
    (fuel : Nat) → (stop : Mark) → Text × Mark × Cursor
  | 0, stop => ([], stop, c)
  | fuel + 1, stop =>
    let c := skipIndent indent c
    if isBreak c.head then
      let (broken, c) := c.lineBreak
      let (more, rest) := scanBlockBreaks indent c fuel c.mark
      (broken ++ more, rest)
    else ([], stop, c)

/-- The lines of a block scalar from a line of text on, then the last line break, the breaks after
it and the place where the scalar ends. -/
def scanBlockLines (fold : Bool) (indent : Nat) (c : Cursor) :
    (fuel : Nat) → Text × Text × Text × Mark × Cursor
  | 0 => ([], [], [], c.mark, c)
  | fuel + 1 =>
    let leading := !isSpaceOrTab c.head
    let (line, c) := c.takeWhile fun d => !isBreak d
    let (broken, c) := c.lineBreak
    let (breaks, stop, c) := scanBlockBreaks indent c c.rest.length.succ c.mark
    if c.mark.column = indent && !c.rest.isEmpty then
      let joint : Text :=
        if fold && broken = [CodePoint.newline] && leading && !isSpaceOrTab c.head then
          if breaks.isEmpty then [CodePoint.ofChar ' '] else []
        else broken
      let (more, rest) := scanBlockLines fold indent c fuel
      (line ++ joint ++ breaks ++ more, rest)
    else (line, broken, breaks, stop, c)

/-- A block scalar, where it ends and what follows; `parent` is the indentation around it. -/
def scanBlock (c : Cursor) (parent : Int) : Scan (Text × Mark × Cursor) := do
  let start := c.mark
  let fold : Bool := c.head = CodePoint.ofChar '>'
  let (chomping, increment, c) ← scanIndicators c.next start
  let c ← c.restOfLine .blockScalar start
  let least := max 1 (parent + 1).toNat
  let fuel := c.rest.length.succ
  let (indent, breaks, stop, c) :=
    match increment with
    | none =>
      let (breaks, widest, stop, c) := scanBlockIndentation c fuel 0 c.mark
      (max least widest, breaks, stop, c)
    | some n =>
      let indent := least + n - 1
      let (breaks, stop, c) := scanBlockBreaks indent c fuel c.mark
      (indent, breaks, stop, c)
  let (text, broken, last, stop, c) :=
    if c.mark.column = indent && !c.rest.isEmpty then
      let (text, rest) := scanBlockLines fold indent c c.rest.length.succ
      (breaks ++ text, rest)
    else ([], [], breaks, stop, c)
  let tail : Text :=
    match chomping with
    | .strip => []
    | .clip => broken
    | .keep => broken ++ last
  pure (text ++ tail, stop, c)

/-! Plain scalars -/

/-- Where a plain scalar stops: at a gap, at a colon before a gap, and at a flow indicator inside a
flow collection. -/
def isPlainStop (inFlow : Bool) (c next : CodePoint) : Bool :=
  let flowMarks : List Nat := [0x2C, 0x5B, 0x5D, 0x7B, 0x7D]
  isGapOrEnd c ||
    (c.val == 0x3A && (isGapOrEnd next || (inFlow && flowMarks.contains next.val))) ||
    (inFlow && (c.val == 0x3F || flowMarks.contains c.val))

def plainRun (inFlow : Bool) : Text → Text
  | [] => []
  | c :: s =>
    if isPlainStop inFlow c (s.head?.getD nul) then [] else c :: plainRun inFlow s

/-- Line breaks inside a plain scalar; none when a document separator follows one. -/
def scanPlainBreaks (c : Cursor) : (fuel : Nat) → Option Text × Cursor
  | 0 => (some [], c)
  | fuel + 1 =>
    let c := c.skipWhile isSpace
    if isBreak c.head then
      let (broken, c) := c.lineBreak
      if c.atSeparator then (none, c)
      else
        match scanPlainBreaks c fuel with
        | (some more, c) => (some (broken ++ more), c)
        | (none, c) => (none, c)
    else (some [], c)

/-- What stands between two parts of a plain scalar, nothing when the scalar is over; whether a line
break was passed. -/
def scanPlainGap (c : Cursor) : Text × Bool × Cursor :=
  let (blanks, c) := c.takeWhile isSpace
  if isBreak c.head then
    let (broken, c) := c.lineBreak
    if c.atSeparator then ([], true, c)
    else
      match scanPlainBreaks c c.rest.length.succ with
      | (some more, c) => (folded broken more, true, c)
      | (none, c) => ([], true, c)
  else (blanks, false, c)

/-- A plain scalar that stands at `indent` or deeper: its text, where it ends, whether the scan went
past a line break after its last part, and the place reached. -/
def scanPlainParts (inFlow : Bool) (indent : Int) (gap : Text) (stop : Mark) (broke : Bool)
    (c : Cursor) : (fuel : Nat) → Text × Mark × Bool × Cursor
  | 0 => ([], stop, broke, c)
  | fuel + 1 =>
    let run := plainRun inFlow c.rest
    if c.head = CodePoint.ofChar '#' || run.isEmpty then ([], stop, broke, c)
    else
      let c := c.skip run.length
      let stop := c.mark
      let (next, broke, c) := scanPlainGap c
      if next.isEmpty || c.head = CodePoint.ofChar '#'
          || (!inFlow && (c.mark.column : Int) < indent) then
        (gap ++ run, stop, broke, c)
      else
        let (more, rest) := scanPlainParts inFlow indent next stop broke c fuel
        (gap ++ run ++ more, rest)

def scanPlain (c : Cursor) (inFlow : Bool) (indent : Int) : Text × Mark × Bool × Cursor :=
  scanPlainParts inFlow indent [] c.mark false c c.rest.length.succ

end NodeClient.Yaml
