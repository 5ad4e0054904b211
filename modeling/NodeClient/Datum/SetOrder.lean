import NodeClient.Datum.Key

/-!
The order in which a set shows its members. They lie in a table with a power of two of slots; each
takes the first free slot of the sequence that its hash gives, and they are shown slot by slot. Only
integers and truth values have a hash that is the same in every run, so a set with any other member
keeps the order of its text.
-/

namespace NodeClient

namespace Datum

/-- The number of slots for the members of a set: at least 8, and with more than four members the
least power of two above twice their number. -/
def slots (members : Nat) : Nat :=
  if members ≤ 4 then 8 else Nat.pow 2 (Nat.log2 (2 * members) + 1)

/-- The hash of an integer as a word of 64 bits: the remainder of its size by `2 ^ 61 - 1` with its
sign; -1 is not used, and -2 takes its place. -/
def hashOf (n : Int) : Nat :=
  let rest : Int := (n.natAbs % (Nat.pow 2 61 - 1) : Nat)
  let signed := if n < 0 then -rest else rest
  let kept := if signed = -1 then -2 else signed
  (kept % (Nat.pow 2 64 : Nat)).toNat

/-- The first free slot from `start` on: ten neighbours at once where they fit in the table, then a
jump that the rest of the hash stirs. -/
def freeSlot (size : Nat) (taken : List Nat) : (fuel start rest : Nat) → Nat
  | 0, start, _ => start
  | fuel + 1, start, rest =>
    let near := List.range' start (if start + 9 < size then 10 else 1)
    match near.find? fun slot => !taken.contains slot with
    | some slot => slot
    | none =>
      let rest := rest / 32
      freeSlot size taken fuel ((start * 5 + 1 + rest) % size) rest

/-- The members with their slots, when those in `placed` already have theirs. -/
def place (size : Nat) : (placed : List (Nat × Datum)) → List (Int × Datum) → List (Nat × Datum)
  | placed, [] => placed
  | placed, (n, d) :: rest =>
    let hash := hashOf n
    let slot := freeSlot size (placed.map Prod.fst) (size + 16) (hash % size) hash
    place size ((slot, d) :: placed) rest

/-- The members of a set in the order in which it shows them. -/
def arranged (members : List Datum) : List Datum :=
  match members.mapM fun d => d.whole?.map fun n => (n, d) with
  | none => members
  | some numbered =>
    let placed := place (slots members.length) [] numbered
    (placed.mergeSort fun a b => decide (a.1 ≤ b.1)).map Prod.snd

end Datum

end NodeClient
