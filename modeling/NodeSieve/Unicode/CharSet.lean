/-!
# Sets of characters

A set of characters is a list of intervals of code points in ascending order,
no two of which touch, so a set has one form and equality of sets is equality
of lists. Everything a pattern needs is here: membership, union, intersection,
complement. Surrogate code points may lie inside an interval; no character has
one, so they are never asked for.
-/

namespace NodeSieve.Unicode

/-- The code points from `lo` to `hi`, both included. -/
structure Interval where
  lo : Nat
  hi : Nat
deriving DecidableEq, Repr, Inhabited

namespace Interval

def contains (i : Interval) (point : Nat) : Bool :=
  i.lo ≤ point && point ≤ i.hi

/-- What two intervals share, if anything. -/
def overlap? (i j : Interval) : Option Interval :=
  let lo := max i.lo j.lo
  let hi := min i.hi j.hi
  if lo ≤ hi then some ⟨lo, hi⟩ else none

end Interval

/-- A set of characters, as ascending intervals that do not touch. -/
structure CharSet where
  intervals : List Interval
deriving DecidableEq, Repr, Inhabited

namespace CharSet

/-- The largest code point. -/
def lastPoint : Nat := 0x10FFFF

def empty : CharSet := ⟨[]⟩

def full : CharSet := ⟨[⟨0, lastPoint⟩]⟩

def containsPoint (s : CharSet) (point : Nat) : Bool :=
  s.intervals.any (·.contains point)

def contains (s : CharSet) (c : Char) : Bool :=
  s.containsPoint c.toNat

def isEmpty (s : CharSet) : Bool :=
  s.intervals.isEmpty

/-- Adds an interval to ascending intervals, swallowing those it meets or
touches. -/
def insertInterval (i : Interval) : List Interval → List Interval
  | [] => [i]
  | j :: js =>
    if i.hi + 1 < j.lo then i :: j :: js
    else if j.hi + 1 < i.lo then j :: insertInterval i js
    else insertInterval ⟨min i.lo j.lo, max i.hi j.hi⟩ js

def insert (s : CharSet) (i : Interval) : CharSet :=
  ⟨insertInterval i s.intervals⟩

def ofIntervals (is : List Interval) : CharSet :=
  is.foldl insert empty

def ofPoints (points : List Nat) : CharSet :=
  ofIntervals (points.map fun p => ⟨p, p⟩)

def singleton (c : Char) : CharSet :=
  ⟨[⟨c.toNat, c.toNat⟩]⟩

def union (s t : CharSet) : CharSet :=
  t.intervals.foldl insert s

def inter (s t : CharSet) : CharSet :=
  ⟨s.intervals.flatMap fun i => t.intervals.filterMap i.overlap?⟩

/-- The gaps between ascending intervals, from `start` on. -/
def gapsFrom (start : Nat) : List Interval → List Interval
  | [] => if start ≤ lastPoint then [⟨start, lastPoint⟩] else []
  | i :: is =>
    if start < i.lo then ⟨start, i.lo - 1⟩ :: gapsFrom (i.hi + 1) is
    else gapsFrom (i.hi + 1) is

def compl (s : CharSet) : CharSet :=
  ⟨gapsFrom 0 s.intervals⟩

def diff (s t : CharSet) : CharSet :=
  s.inter t.compl

/-- What lies in exactly one of the two sets. -/
def symmDiff (s t : CharSet) : CharSet :=
  (s.union t).diff (s.inter t)

/-- A set of ASCII characters only. -/
def isAscii (s : CharSet) : Bool :=
  s.intervals.all fun i => i.hi ≤ 0x7F

/-- The number of code points. -/
def size (s : CharSet) : Nat :=
  s.intervals.foldl (fun count i => count + (i.hi + 1 - i.lo)) 0

/-- The code points, in ascending order. -/
def points (s : CharSet) : List Nat :=
  s.intervals.flatMap fun i => List.range' i.lo (i.hi + 1 - i.lo)

/-- The only member, if there is exactly one. -/
def single? (s : CharSet) : Option Char :=
  match s.intervals with
  | [i] => if i.lo = i.hi then some (Char.ofNat i.lo) else none
  | _ => none

end CharSet

end NodeSieve.Unicode
