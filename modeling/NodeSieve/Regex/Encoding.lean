import NodeSieve.Unicode.CharSet

/-!
# Encodings of a set of characters

The UTF-8 encodings of an interval of characters are the byte strings of a few
rows of byte intervals, one interval for each byte. A row covers as many
characters as it can, and the rows of an interval are ascending, so rows that
share their first bytes stand next to each other.

States that read such rows share what they can. Read forward, rows that may be
left behind the same bytes in the same way are one state. Read backward, what
rows begin with is shared as far as a table still knows it.
-/

namespace NodeSieve.Regex

open NodeSieve.Unicode

/-- One interval of bytes for each byte of an encoding. -/
abbrev ByteRow := List Interval

/-- The rows for the numbers from `lo` to `hi` when they are spelled in a first
byte, which adds `mark` to its part of the number, and `count` bytes of six
bits each. -/
def rowsOf (mark : Nat) : Nat → Nat → Nat → List ByteRow
  | 0, lo, hi => [[⟨mark + lo, mark + hi⟩]]
  | count + 1, lo, hi =>
    let block := 1 <<< (6 * (count + 1))
    let first := lo / block
    let last := hi / block
    if first = last then
      (rowsOf 0x80 count (lo % block) (hi % block)).map (⟨mark + first, mark + first⟩ :: ·)
    else
      let startsInside := lo % block ≠ 0
      let endsInside := hi % block ≠ block - 1
      let head :=
        if startsInside then
          (rowsOf 0x80 count (lo % block) (block - 1)).map (⟨mark + first, mark + first⟩ :: ·)
        else []
      let tail :=
        if endsInside then
          (rowsOf 0x80 count 0 (hi % block)).map (⟨mark + last, mark + last⟩ :: ·)
        else []
      let low := if startsInside then first + 1 else first
      let high := if endsInside then last - 1 else last
      let middle :=
        if low ≤ high then
          (rowsOf 0x80 count 0 (block - 1)).map (⟨mark + low, mark + high⟩ :: ·)
        else []
      head ++ middle ++ tail

/-- The intervals of code points whose encodings have the same shape: the mark
of the first byte, the number of further bytes, and the code points. No
character has a surrogate code point. -/
def encodingShapes : List (Nat × Nat × Interval) := [
  (0, 0, ⟨0, 0x7F⟩), (0xC0, 1, ⟨0x80, 0x7FF⟩), (0xE0, 2, ⟨0x800, 0xD7FF⟩),
  (0xE0, 2, ⟨0xE000, 0xFFFF⟩), (0xF0, 3, ⟨0x10000, 0x10FFFF⟩)]

/-- The rows for the encodings of an interval of characters. -/
def rowsOfInterval (i : Interval) : List ByteRow :=
  encodingShapes.flatMap fun (mark, count, points) =>
    match i.overlap? points with
    | some shared => rowsOf mark count shared.lo shared.hi
    | none => []

/-- The rows for the encodings of a set of characters. -/
def rowsOfSet (set : CharSet) : List ByteRow :=
  set.intervals.flatMap rowsOfInterval

/-! ### Rows that are read backward -/

/-- A state that reads an interval of bytes, and the place of its key in a
table of states. It is `kept` until another key takes the place. -/
structure Visited where
  interval : Interval
  state : Nat
  place : Nat
  kept : Bool
deriving DecidableEq, Repr

/-- The number of places in the table. -/
def placeCount : UInt64 := 1000

/-- The place of the state that reads an interval and goes on to the state
`next`: the FNV-1a hash of the three numbers. -/
def placeOf (next : Nat) (i : Interval) : Nat :=
  let mix (hash : UInt64) (n : Nat) : UInt64 := (hash ^^^ n.toUInt64) * 1099511628211
  ([next, i.lo, i.hi].foldl mix 14695981039346656037 % placeCount).toNat

/-- Takes away the place of a state whose place is given to another. -/
def Visited.displace (place : Nat) (v : Visited) : Visited :=
  { v with kept := v.kept && v.place ≠ place }

/-- Adds a row, of which `passed` has been passed, latest first, and the last
state of it is `next`; `path` is what is left of the states of the row before.
A state that reads the same interval and goes on to the same state is used
again while it has its place, and `count` states grow to the first
component. -/
def addRow (count next : Nat) (passed path : List Visited) : ByteRow → Nat × List Visited
  | [] => (count, passed.reverse)
  | i :: row =>
    match path.head?.filter fun v => v.kept && v.interval = i with
    | some v => addRow count v.state (v :: passed) path.tail row
    | none =>
      let place := placeOf next i
      addRow (count + 1) count (⟨i, count, place, true⟩ :: passed.map (·.displace place)) [] row

/-- How many states there are when ascending rows have been added to `count`
states, each from the last byte of the encoding to the first, whose state goes
on to `next`. -/
def addRows (count next : Nat) (rows : List ByteRow) : Nat :=
  (rows.foldl (fun (count, path) row => addRow count next [] path row) (count, [])).1

/-! ### Rows that are read forward -/

/-- What may follow each first interval of rows, which stand next to each other
if they share it. -/
def groupRows : List ByteRow → List (Interval × List ByteRow)
  | [] => []
  | [] :: rows => groupRows rows
  | (i :: row) :: rows =>
    match groupRows rows with
    | (j, group) :: groups =>
      if i = j then (i, row :: group) :: groups else (i, [row]) :: (j, group) :: groups
    | [] => [(i, [row])]

/-- All sets of rows that may be left behind a number of bytes, with the rows
themselves. -/
def continuations : Nat → List ByteRow → List (List ByteRow)
  | 0, _ => []
  | count + 1, rows =>
    if rows = [[]] then []
    else rows :: (groupRows rows).flatMap fun group => continuations count group.2

end NodeSieve.Regex
