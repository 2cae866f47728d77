import NodeSieve.Regex.Plan

/-!
# Patterns that are a few texts

A needle is a text that a match begins with. Where a pattern captures nothing,
looks at nothing and matches just its needles, a search for these texts finds
all that it matches, so it needs no program. A search wants few needles and
bytes that are seen seldom, and gives up exact needles for that; such a pattern
has a program after all.
-/

namespace NodeSieve.Regex

open NodeSieve.Unicode

/-- The UTF-8 form of characters. -/
def utf8Bytes (chars : List Char) : List UInt8 :=
  chars.flatMap String.utf8EncodeChar

/-- What a match begins with; it is `exact` if it also ends there. -/
structure Needle where
  bytes : List UInt8
  exact : Bool
deriving DecidableEq, Repr

namespace Needle

/-- The needle that every text begins with. -/
def empty : Needle :=
  ⟨[], true⟩

/-- At most `count` bytes of a needle. -/
def cut (count : Nat) (x : Needle) : Needle :=
  if x.bytes.length ≤ count then x else ⟨x.bytes.take count, false⟩

def inexact (x : Needle) : Needle :=
  { x with exact := false }

/-- A needle behind an exact one. -/
def append (x y : Needle) : Needle :=
  ⟨x.bytes ++ y.bytes, y.exact⟩

/-- One of needles that stand next to each other with the same bytes, exact if
all of them are. -/
def merge : List Needle → List Needle
  | [] => []
  | x :: xs =>
    match merge xs with
    | [] => [x]
    | y :: ys =>
      if x.bytes = y.bytes then ⟨x.bytes, x.exact && y.exact⟩ :: ys else x :: y :: ys

/-- Puts a needle behind preferred ones, unless it begins with one of these and
so is never reached. What keeps it out stays exact only if `keepExact`. -/
def insert (keepExact : Bool) (kept : List Needle) (x : Needle) : List Needle :=
  if kept.any (·.bytes.isPrefixOf x.bytes) then
    if keepExact then kept
    else kept.map fun y => if y.bytes.isPrefixOf x.bytes then y.inexact else y
  else kept ++ [x]

/-- Needles of which none begins with an earlier one. -/
def prune (keepExact : Bool) (xs : List Needle) : List Needle :=
  xs.foldl (insert keepExact) []

/-- What two lists of bytes begin with. -/
def sharedStart : List UInt8 → List UInt8 → List UInt8
  | b :: bs, c :: cs => if b = c then b :: sharedStart bs cs else []
  | _, _ => []

/-- What all needles begin with. -/
def sharedBytes : List Needle → List UInt8
  | [] => []
  | x :: xs => xs.foldl (fun shared y => sharedStart shared y.bytes) x.bytes

end Needle

/-! ### The needles of a pattern -/

/-- What the matches of a pattern begin with, the preferred first, if it is
known. -/
abbrev Needles := Option (List Needle)

namespace Needles

/-- The most characters of a class that are needles. -/
def maxMembers : Nat := 10

/-- The most copies of a repetition that needles are made of. -/
def maxCopies : Nat := 10

/-- The most bytes of a needle. -/
def maxBytes : Nat := 100

/-- The most needles of a pattern. -/
def maxCount : Nat := 250

/-- The matches of the empty pattern. -/
def start : Needles :=
  some [.empty]

def inexact (s : Needles) : Needles :=
  s.map (·.map Needle.inexact)

/-- Whether there is nothing to which more could be added. -/
def isClosed : Needles → Bool
  | none => true
  | some xs => xs.all (!·.exact)

/-- What begins with one needle or another. -/
def union : Needles → Needles → Needles
  | some xs, some ys =>
    if xs.length + ys.length ≤ maxCount then some (Needle.merge (xs ++ ys))
    else
      let xs := Needle.merge (xs.map (Needle.cut 4))
      let ys := Needle.merge (ys.map (Needle.cut 4))
      if xs.length + ys.length ≤ maxCount then some (Needle.merge (xs ++ ys)) else none
  | _, _ => none

/-- Before what is not known, a needle is inexact, and the empty one is lost. -/
def beforeUnknown (xs : List Needle) : Needles :=
  if xs.any (·.bytes.isEmpty) then none else some (xs.map Needle.inexact)

/-- What begins with one needle and goes on with another. -/
def cross : Needles → Needles → Needles
  | none, _ => none
  | some xs, none => beforeUnknown xs
  | some xs, some ys =>
    if xs.length * ys.length ≤ maxCount then
      let longer := xs.flatMap fun x => if x.exact then ys.map x.append else [x]
      some ((Needle.merge longer).map (Needle.cut maxBytes))
    else beforeUnknown xs

/-- As `cross`, if there is anything left to add to. -/
def extend (s t : Needles) : Needles :=
  if s.isClosed then s else s.cross t

/-- What begins with several copies. -/
def power (s : Needles) : Nat → Needles
  | 0 => start
  | count + 1 => (power s count).extend s

/-- The members of a small class. -/
def ofSet (set : CharSet) : Needles :=
  if set.size ≤ maxMembers then
    some (set.points.map fun point => ⟨utf8Bytes [Char.ofNat point], true⟩)
  else none

/-- What begins with a repetition. -/
def times (least : Nat) (most : Option Nat) (greedy : Bool) (s : Needles) : Needles :=
  match least with
  | 0 =>
    let more := if most = some 1 then s else s.inexact
    if greedy then more.union start else start.union more
  | least + 1 =>
    let copies := s.power (min (least + 1) maxCopies)
    if most = some (least + 1) ∧ least < maxCopies then copies else copies.inexact

end Needles

mutual

/-- What the matches of a plan begin with. -/
def Plan.needles : Plan → Needles
  | .empty => .start
  | .text chars => some [(⟨utf8Bytes chars, true⟩ : Needle).cut Needles.maxBytes]
  | .oneOf set => .ofSet set
  | .look _ => .start
  | .capture body => body.needles
  | .repeated least most greedy body => body.needles.times least most greedy
  | .concat parts => Plan.crossFrom .start parts
  | .alternation branches => Plan.unionFrom (some []) branches

/-- The needles of plans, one behind the other, behind what was before. -/
def Plan.crossFrom (before : Needles) : List Plan → Needles
  | [] => before
  | p :: ps => Plan.crossFrom (before.extend p.needles) ps

/-- The needles of plans, one beside the other, beside what was before. -/
def Plan.unionFrom (before : Needles) : List Plan → Needles
  | [] => before
  | p :: ps => Plan.unionFrom (before.union p.needles) ps

end

/-! ### The search for needles -/

/-- Whether a byte is seen often. -/
def isCommonByte (b : UInt8) : Bool :=
  0x80 ≤ b || "\n\r (),-./0129:_|abcdefghilmnoprstuvxy".toList.any (·.toNat == b.toNat)

/-- Cuts needles shorter as long as there are many of them: to how many bytes,
and from how many needles on. -/
def shorten : List (Nat × Nat) → List Needle → List Needle
  | [], xs => xs
  | (bytes, count) :: steps, xs =>
    if xs.length ≤ count then xs
    else shorten steps (Needle.prune false (xs.map (Needle.cut bytes)))

/-- The needles that are searched for in place of many. -/
def fewer (xs : List Needle) : List Needle :=
  shorten [(5, 10), (4, 10), (3, 64), (2, 64), (1, 10)] xs

/-- Whether needles are good enough to be searched for: not too short, and not
too many. -/
def areGood (xs : List Needle) : Bool :=
  xs.all (2 < ·.bytes.length) && xs.length ≤ 64

/-- Whether all needles of a set are exact in the end. A byte that is seen
seldom and that all begin with is searched for alone, and so is a long
beginning; else fewer needles are searched for, if they are good. -/
def staysExact (xs : List Needle) : Bool :=
  let kept := Needle.prune true xs
  let shared := Needle.sharedBytes kept
  let isShort := 0 < shared.length && shared.length ≤ 3
  if 1 < xs.length && isShort && !(shared.head?.any isCommonByte) then
    kept.all fun x => x.exact && x.bytes.length ≤ 1
  else
    let isFast := kept.all (·.exact) && kept.length ≤ 16
    if 4 < shared.length || (1 < shared.length && !isFast) then
      kept.all fun x => x.exact && x.bytes.length ≤ shared.length
    else kept.all (·.exact) && (!(areGood (fewer kept)) || (fewer kept).all (·.exact))

mutual

/-- Whether a plan captures something or looks at a place. -/
def Plan.asksMore : Plan → Bool
  | .look _ => true
  | .capture _ => true
  | .repeated _ _ _ body => body.asksMore
  | .concat parts => Plan.anyAsksMore parts
  | .alternation branches => Plan.anyAsksMore branches
  | _ => false

def Plan.anyAsksMore : List Plan → Bool
  | [] => false
  | p :: ps => p.asksMore || Plan.anyAsksMore ps

end

/-- Whether a search for needles finds all that a plan matches. -/
def Plan.isNeedles (p : Plan) : Bool :=
  if p.asksMore then false
  else
    match p.needles with
    | none | some [] => false
    | some xs => if xs.any (·.bytes.isEmpty) then false else staysExact xs

end NodeSieve.Regex
