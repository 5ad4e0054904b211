import NodeClient.Yaml.Scalar

/-!
Tokens out of text. A scalar, an alias, a tag or a flow collection may turn out to be the key of a
mapping when a colon follows it on the same line; until that is known its token is held back.
-/

namespace NodeClient.Yaml

/-- A token that a colon may still turn into a key. -/
structure SimpleKey where
  token : Nat
  required : Bool
  mark : Mark

structure Lexer where
  cursor : Cursor
  tokens : Array Token
  flowLevel : Int
  indent : Int
  indents : List Int
  /-- Whether a simple key may start here. -/
  keyAllowed : Bool
  /-- The possible keys by flow level, at most one for each. -/
  keys : List (Int × SimpleKey)
  done : Bool

namespace Lexer

def start (s : Text) : Lexer :=
  let m := (Cursor.start s).mark
  { cursor := .start s, tokens := #[⟨.streamStart, m, m⟩], flowLevel := 0, indent := -1
    indents := [], keyAllowed := true, keys := [], done := false }

def mark (l : Lexer) : Mark := l.cursor.mark

def inFlow (l : Lexer) : Bool := l.flowLevel != 0

def fault {α : Type} (l : Lexer) (activity : Option (Activity × Option Mark)) (problem : Problem) :
    Scan α :=
  .error (.fault ⟨activity, problem, some l.mark⟩)

def push (l : Lexer) (kind : TokenKind) (start stop : Mark) : Lexer :=
  { l with tokens := l.tokens.push ⟨kind, start, stop⟩ }

/-- Adds a token for the next `n` code points and passes them. -/
def pushNext (l : Lexer) (kind : TokenKind) (n : Nat) : Lexer :=
  let after := l.cursor.skip n
  { l.push kind l.mark after.mark with cursor := after }

/-- A key has its colon on the same line and within 1024 code points. -/
def isStale (l : Lexer) (k : SimpleKey) : Bool :=
  k.mark.line != l.mark.line || 1024 < l.mark.index - k.mark.index

def missingColon {α : Type} (l : Lexer) (k : SimpleKey) : Scan α :=
  l.fault (some (.simpleKey, some k.mark)) .noColon

def dropStale (l : Lexer) : Scan Lexer :=
  match l.keys.find? fun (_, k) => l.isStale k && k.required with
  | some (_, k) => l.missingColon k
  | none => .ok { l with keys := l.keys.filter fun (_, k) => !l.isStale k }

def dropKey (l : Lexer) : Scan Lexer :=
  match l.keys.lookup l.flowLevel with
  | none => .ok l
  | some k =>
    if k.required then l.missingColon k
    else .ok { l with keys := l.keys.filter fun (level, _) => level != l.flowLevel }

/-- The next token may be a key. -/
def saveKey (l : Lexer) : Scan Lexer := do
  if !l.keyAllowed then pure l
  else
    let required := !l.inFlow && l.indent == l.mark.column
    let l ← l.dropKey
    pure { l with keys := l.keys ++ [(l.flowLevel, ⟨l.tokens.size, required, l.mark⟩)] }

/-- Ends the block collections that are indented deeper than a column. -/
def unwindTo (column : Int) (l : Lexer) : (fuel : Nat) → Lexer
  | 0 => l
  | fuel + 1 =>
    if column < l.indent then
      let l' := { l.push .blockEnd l.mark l.mark with
        indent := l.indents.headD (-1), indents := l.indents.tail }
      unwindTo column l' fuel
    else l

def unwind (l : Lexer) (column : Int) : Lexer :=
  if l.inFlow then l else unwindTo column l (l.indents.length + 1)

/-- Opens a level of indentation; whether the column is deeper than the current one. -/
def deepen (l : Lexer) (column : Int) : Lexer × Bool :=
  if l.indent < column then
    ({ l with indents := l.indent :: l.indents, indent := column }, true)
  else (l, false)

/-- Opens a block collection where the indentation grows. -/
def openBlock (l : Lexer) (kind : TokenKind) : Lexer :=
  match l.deepen l.mark.column with
  | (l, true) => l.push kind l.mark l.mark
  | (l, false) => l

/-- Past spaces, comments and line breaks; a key may start on a new line of block context. -/
def toNextToken (l : Lexer) : (fuel : Nat) → Lexer
  | 0 => l
  | fuel + 1 =>
    let c := (l.cursor.skipWhile isSpace).skipComment
    if isBreak c.head then
      toNextToken { l with cursor := c.lineBreak.2, keyAllowed := l.keyAllowed || !l.inFlow } fuel
    else { l with cursor := c }

def skipGap (l : Lexer) : Lexer :=
  let c := l.cursor
  let c := if c.mark.index = 0 && c.head = CodePoint.byteOrderMark then c.next else c
  toNextToken { l with cursor := c } c.rest.length.succ

/-! One token each -/

def fetchStreamEnd (l : Lexer) : Scan Lexer := do
  let l ← (l.unwind (-1)).dropKey
  pure { l.push .streamEnd l.mark l.mark with keyAllowed := false, keys := [], done := true }

def fetchDirective (l : Lexer) : Scan Lexer := do
  let l ← (l.unwind (-1)).dropKey
  let (value, stop, after) ← scanDirective l.cursor
  pure { l.push (.directive value) l.mark stop with cursor := after, keyAllowed := false }

def fetchDocumentMark (l : Lexer) (kind : TokenKind) : Scan Lexer := do
  let l ← (l.unwind (-1)).dropKey
  pure { l.pushNext kind 3 with keyAllowed := false }

def fetchFlowStart (l : Lexer) (kind : TokenKind) : Scan Lexer := do
  let l ← l.saveKey
  pure { l.pushNext kind 1 with flowLevel := l.flowLevel + 1, keyAllowed := true }

def fetchFlowEnd (l : Lexer) (kind : TokenKind) : Scan Lexer := do
  let l ← l.dropKey
  pure { l.pushNext kind 1 with flowLevel := l.flowLevel - 1, keyAllowed := false }

def fetchFlowEntry (l : Lexer) : Scan Lexer := do
  let l ← l.dropKey
  pure { l.pushNext .flowEntry 1 with keyAllowed := true }

def fetchBlockEntry (l : Lexer) : Scan Lexer := do
  if !l.inFlow && !l.keyAllowed then l.fault none .sequenceHere
  else
    let l := if l.inFlow then l else l.openBlock .blockSequenceStart
    let l ← l.dropKey
    pure { l.pushNext .blockEntry 1 with keyAllowed := true }

def fetchKey (l : Lexer) : Scan Lexer := do
  if !l.inFlow && !l.keyAllowed then l.fault none .keyHere
  else
    let l := if l.inFlow then l else l.openBlock .blockMappingStart
    let l ← l.dropKey
    pure { l.pushNext .key 1 with keyAllowed := !l.inFlow }

/-- The token that was held back becomes a key, the first of a mapping where it is deeper. -/
def turnIntoKey (l : Lexer) (k : SimpleKey) : Lexer :=
  let l := { l with
    keys := l.keys.filter fun (level, _) => level != l.flowLevel
    tokens := l.tokens.insertIdxIfInBounds k.token ⟨.key, k.mark, k.mark⟩ }
  if l.inFlow then l
  else
    match l.deepen k.mark.column with
    | (l, true) =>
      { l with tokens := l.tokens.insertIdxIfInBounds k.token ⟨.blockMappingStart, k.mark, k.mark⟩ }
    | (l, false) => l

def fetchValue (l : Lexer) : Scan Lexer := do
  match l.keys.lookup l.flowLevel with
  | some k => pure { (l.turnIntoKey k).pushNext .value 1 with keyAllowed := false }
  | none =>
    if !l.inFlow && !l.keyAllowed then l.fault none .valueHere
    else
      let l := if l.inFlow then l else l.openBlock .blockMappingStart
      pure { l.pushNext .value 1 with keyAllowed := !l.inFlow }

/-- A token that may be a key, with its end and the place after it. -/
def fetchHeld (l : Lexer) (scan : Cursor → Scan (TokenKind × Mark × Cursor)) : Scan Lexer := do
  let l ← l.saveKey
  let (kind, stop, after) ← scan l.cursor
  pure { l.push kind l.mark stop with cursor := after, keyAllowed := false }

def fetchName (l : Lexer) (kind : Text → TokenKind) : Scan Lexer :=
  l.fetchHeld fun c => do
    let (name, after) ← scanName c
    pure (kind name, after.mark, after)

def fetchTag (l : Lexer) : Scan Lexer :=
  l.fetchHeld fun c => do
    let (handle, suffix, after) ← scanTag c
    pure (.tag handle suffix, after.mark, after)

def fetchQuoted (l : Lexer) : Scan Lexer :=
  l.fetchHeld fun c => do
    let (text, after) ← scanQuoted c
    pure (.scalar text false, after.mark, after)

def fetchBlockScalar (l : Lexer) : Scan Lexer := do
  let l ← l.dropKey
  let (text, stop, after) ← scanBlock l.cursor l.indent
  pure { l.push (.scalar text false) l.mark stop with cursor := after, keyAllowed := true }

def fetchPlain (l : Lexer) : Scan Lexer := do
  let l ← l.saveKey
  let (text, stop, broke, after) := scanPlain l.cursor l.inFlow (l.indent + 1)
  pure { l.push (.scalar text true) l.mark stop with cursor := after, keyAllowed := broke }

/-- Marks that start no plain scalar by themselves. -/
def indicators : List Nat :=
  [0x2D, 0x3F, 0x3A, 0x2C, 0x5B, 0x5D, 0x7B, 0x7D, 0x23, 0x26, 0x2A, 0x21, 0x7C, 0x3E, 0x27, 0x22,
    0x25, 0x40, 0x60]

def startsPlain (l : Lexer) : Bool :=
  let c := l.cursor.head
  !(isGapOrEnd c || indicators.contains c.val) ||
    (!isGapOrEnd (l.cursor.peek 1) &&
      (c.val == 0x2D || (!l.inFlow && (c.val == 0x3F || c.val == 0x3A))))

/-- Adds the next token, and those that structure asks for before it. -/
def fetch (l : Lexer) : Scan Lexer := do
  let l ← l.skipGap.dropStale
  let l := l.unwind l.mark.column
  let c := l.cursor.head
  let is (mark : Char) : Bool := c == CodePoint.ofChar mark
  let atLineStart : Bool := l.mark.column == 0
  let gapNext : Bool := isGapOrEnd (l.cursor.peek 1)
  if l.cursor.rest.isEmpty then l.fetchStreamEnd
  else if is '%' && atLineStart then l.fetchDirective
  else if atLineStart && l.cursor.atMarks (CodePoint.ofChar '-') then
    l.fetchDocumentMark .documentStart
  else if atLineStart && l.cursor.atMarks (CodePoint.ofChar '.') then
    l.fetchDocumentMark .documentEnd
  else if is '[' then l.fetchFlowStart .flowSequenceStart
  else if is '{' then l.fetchFlowStart .flowMappingStart
  else if is ']' then l.fetchFlowEnd .flowSequenceEnd
  else if is '}' then l.fetchFlowEnd .flowMappingEnd
  else if is ',' then l.fetchFlowEntry
  else if is '-' && gapNext then l.fetchBlockEntry
  else if is '?' && (l.inFlow || gapNext) then l.fetchKey
  else if is ':' && (l.inFlow || gapNext) then l.fetchValue
  else if is '*' then l.fetchName .alias
  else if is '&' then l.fetchName .anchor
  else if is '!' then l.fetchTag
  else if (is '|' || is '>') && !l.inFlow then l.fetchBlockScalar
  else if c == CodePoint.apostrophe || c == CodePoint.quote then l.fetchQuoted
  else if l.startsPlain then l.fetchPlain
  else l.fault (some (.nextToken, none)) (.cannotStart c)

/-- The tokens that no colon can turn into a key any more. -/
def released (l : Lexer) : List Token :=
  match (l.keys.map fun (_, k) => k.token).min? with
  | none => l.tokens.toList
  | some first => l.tokens.toList.take first

/-- Fetches tokens up to the end of the text or a fault. A fault comes after the tokens that were
released before it; `ready` are those that were released when the last one was fetched. -/
def run (l : Lexer) (ready : List Token) : (fuel : Nat) → Tokens
  | 0 => ⟨ready, none⟩
  | fuel + 1 =>
    if l.done then ⟨l.tokens.toList, none⟩
    else
      match l.dropStale with
      | .error stop => ⟨ready, some stop⟩
      | .ok l =>
        match l.fetch with
        | .error stop => ⟨l.released, some stop⟩
        | .ok next => run next l.released fuel

end Lexer

/-- A code point that may stand in a YAML text. -/
def isAcceptable (c : CodePoint) : Bool :=
  c.val == 0x09 || c.val == 0x0A || c.val == 0x0D || (0x20 ≤ c.val && c.val ≤ 0x7E) ||
    c.val == 0x85 || (0xA0 ≤ c.val && c.val ≤ 0xD7FF) || (0xE000 ≤ c.val && c.val ≤ 0xFFFD) ||
    0x10000 ≤ c.val

def tokens (s : Text) : Scan Tokens :=
  match s.find? fun c => !isAcceptable c with
  | some c => .error (.unacceptable c (s.takeWhile isAcceptable).length)
  | none => .ok ((Lexer.start s).run [] (s.length + 2))

end NodeClient.Yaml
