import NodeClient.Address.Ipv6
import NodeClient.Text.Lower
import NodeClient.Number.Numeral

/-!
The parts of a URL that name an endpoint: its scheme, its host and its port.
-/

namespace NodeClient

structure Url where
  scheme : Text
  host : Option Text
  /-- The text after the colon; empty when there is none. -/
  port : Text

namespace Url

def isSchemeMark (c : CodePoint) : Bool :=
  c.isLetter || c.isDigit || [0x2B, 0x2D, 0x2E].contains c.val

/-- A scheme in small letters and what follows its colon; no scheme when the text before the first
colon cannot be one. -/
def splitScheme (s : Text) : Text × Text :=
  match Text.splitFirst (CodePoint.ofChar ':') s with
  | (c :: name, some rest) =>
    if c.isLetter && (c :: name).all isSchemeMark then (Text.lowerAscii (c :: name), rest)
    else ([], s)
  | _ => ([], s)

/-- Tabs and line marks are dropped wherever they stand, controls and spaces at the start. -/
def clean (s : Text) : Text :=
  (s.dropWhile fun c => c.val ≤ 0x20).filter fun c => !(c.isLineMark || c.val == 0x09)

/-- The authority of the text after the scheme: from `//` up to the next `/`, `?` or `#`. -/
def authority (s : Text) : Text :=
  match s with
  | a :: b :: rest =>
    if a.val = 0x2F && b.val = 0x2F then
      rest.takeWhile fun c => !(c.val == 0x2F || c.val == 0x3F || c.val == 0x23)
    else []
  | _ => []

/-- Code points whose compatibility form holds one of the marks `/`, `?`, `#`, `@`, `:`. -/
def hiddenMarks : List Nat :=
  [0x2047, 0x2048, 0x2049, 0x2100, 0x2101, 0x2105, 0x2106, 0x2A74, 0xFE13, 0xFE16, 0xFE55, 0xFE56,
    0xFE5F, 0xFE6B, 0xFF03, 0xFF0F, 0xFF1A, 0xFF1F, 0xFF20]

def openBracket : CodePoint := CodePoint.ofChar '['
def closeBracket : CodePoint := CodePoint.ofChar ']'
def colon : CodePoint := CodePoint.ofChar ':'

/-- The authority without the user information before its last `@`. -/
def hostPart (auth : Text) : Text := (Text.splitLast (CodePoint.ofChar '@') auth).2

/-- A host that may stand in brackets: `v`, hexadecimal digits, a dot and more, or an address. -/
def isBracketHost (host : Text) : Bool :=
  match host with
  | [] => false
  | c :: rest =>
    if c = CodePoint.ofChar 'v' then
      match Text.splitFirst (CodePoint.ofChar '.') rest with
      | (digits, some more) => !digits.isEmpty && digits.all CodePoint.isHexDigit && !more.isEmpty
      | (_, none) => false
    else Address.isIpv6 host

/-- The host and the port of the part after the user information, and what stands around the
brackets of a bracketed host: before the first, and between the second and the port's colon. -/
def splitHost (part : Text) : Text × Text × Text × Text :=
  match Text.splitFirst openBracket part with
  | (before, some rest) =>
    let (host, after) := Text.splitFirst closeBracket rest
    let (between, port) := Text.splitFirst colon (after.getD [])
    (host, port.getD [], before, between)
  | (_, none) =>
    let (host, port) := Text.splitFirst colon part
    (host, port.getD [], [], [])

/-- Brackets come in pairs, hold an address, and have only a port after them. -/
def bracketsFit (auth : Text) : Bool :=
  if auth.contains openBracket || auth.contains closeBracket then
    let (host, _, before, between) := splitHost (hostPart auth)
    auth.contains openBracket && auth.contains closeBracket && before.isEmpty &&
      between.isEmpty && isBracketHost host
  else true

/-- The host in small letters, but for a zone after a percent sign. -/
def lowerHost (host : Text) : Text :=
  match Text.splitFirst (CodePoint.ofChar '%') host with
  | (name, some zone) => Text.lower name ++ CodePoint.ofChar '%' :: zone
  | (name, none) => Text.lower name

/-- None for an authority whose brackets do not fit, or that hides a mark in a compatibility
form. -/
def read? (raw : Text) : Option Url :=
  let (scheme, rest) := splitScheme (clean raw)
  let auth := authority rest
  if !bracketsFit auth || auth.any (fun c => hiddenMarks.contains c.val) then none
  else
    let (host, port, _, _) := splitHost (hostPart auth)
    some ⟨scheme, if host.isEmpty then none else some (lowerHost host), port⟩

/-- The port as a number, absent when its text is empty. -/
def portNumber? (u : Url) : Option (Option Nat) :=
  if u.port.isEmpty then some none
  else
    match Numeral.natural? u.port with
    | some n => if n ≤ 65535 then some (some n) else none
    | none => none

end Url

end NodeClient
