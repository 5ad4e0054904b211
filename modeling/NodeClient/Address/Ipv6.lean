import NodeClient.Text.Basic

/-!
The written forms of numeric addresses: four decimal octets, or eight groups of hexadecimal digits
of which one run of zeros may be left out as `::`.
-/

namespace NodeClient.Address

/-- A decimal octet without superfluous zeros. -/
def isOctet (s : Text) : Bool :=
  match s with
  | [] => false
  | [c] => c.isDigit
  | c :: _ =>
    s.length ≤ 3 && s.all CodePoint.isDigit && c != CodePoint.ofChar '0' &&
      s.foldl (fun n d => n * 10 + (d.val - 0x30)) 0 ≤ 255

def isIpv4 (s : Text) : Bool :=
  let octets := Text.splitAll (CodePoint.ofChar '.') s
  octets.length == 4 && octets.all isOctet

def isGroup (s : Text) : Bool :=
  !s.isEmpty && s.length ≤ 4 && s.all CodePoint.isHexDigit

/-- The groups of an address; four octets at the end count as two groups. -/
def groups? (s : Text) : Option (List Text) :=
  let parts := Text.splitAll (CodePoint.ofChar ':') s
  match parts.getLast? with
  | none => none
  | some last =>
    if parts.length < 3 then none
    else if last.contains (CodePoint.ofChar '.') then
      let pair : List Text := ["0", "0"]
      if isIpv4 last then some (parts.dropLast ++ pair) else none
    else some parts

/-- Whether groups stand for an address: eight of them, or fewer around one `::`. An empty group at
either end is part of a `::` there. -/
def areGroups (parts : List Text) : Bool :=
  let inner := parts.drop 1 |>.dropLast
  if inner.contains [] then
    let before := parts.takeWhile fun p => !p.isEmpty
    let skipAt := if before.isEmpty then 1 else before.length
    let high := parts.take skipAt
    let low := parts.drop (skipAt + 1)
    let high := if high.head? = some [] then high.drop 1 else high
    let low := if low.getLast? = some [] then low.dropLast else low
    let openEnd := parts.getLast? = some [] && !low.isEmpty
    inner.count [] == 1 && !openEnd && high.length + low.length < 8 &&
      high.all isGroup && low.all isGroup
  else parts.length == 8 && parts.all isGroup

/-- An address, perhaps with a zone after a percent sign. -/
def isIpv6 (s : Text) : Bool :=
  let (address, zone) := Text.splitFirst (CodePoint.ofChar '%') s
  let zoneFits :=
    match zone with
    | none => true
    | some z => !z.isEmpty && !z.contains (CodePoint.ofChar '%')
  match groups? address with
  | none => false
  | some parts => zoneFits && parts.length ≤ 9 && areGroups parts

end NodeClient.Address
