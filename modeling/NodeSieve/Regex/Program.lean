import NodeSieve.Regex.Encoding
import NodeSieve.Regex.Needle

/-!
# How large a pattern's program is

A pattern is refused when a program that runs it outgrows a limit in bytes. A
program is a graph of states that read one byte each, fork, check a condition
or mark a place. It is built for reading forward, to find where a match ends,
and again for reading backward, to find where it starts, and each of the two
has to stay within the limit. A pattern that a search for needles finds has no
program, so no limit refuses it.

Here the states are counted and not made. What is added to a program has an
open end, which is joined to what is added behind it; if the open end is a
fork, it takes room to join it.
-/

namespace NodeSieve.Regex

open NodeSieve.Unicode NodeSieve.Text

/-- The way that a program reads a text. -/
inductive Direction where
  | forward
  | backward
deriving DecidableEq, Repr

/-- Parts of a pattern or a text, in the order in which they are read. -/
def Direction.order {α : Type} : Direction → List α → List α
  | .forward, parts => parts
  | .backward, parts => parts.reverse

/-- The size of a state without the ways out of it. -/
def stateSize : Nat := 32

/-- The size of one of several ways out of a state that reads a byte. -/
def rowSize : Nat := 8

/-- The size of a way out of a fork. -/
def branchSize : Nat := 4

/-- A program under construction: its number of states, the size of the ways
out of them, and whether its open end is a fork. -/
structure Program where
  states : Nat
  ways : Nat
  forks : Bool
deriving DecidableEq, Repr

namespace Program

def empty : Program :=
  ⟨0, 0, false⟩

def size (p : Program) : Nat :=
  stateSize * p.states + p.ways

/-- Adds states and ways out of states; the open end is no fork. -/
def add (states ways : Nat) (p : Program) : Program :=
  ⟨p.states + states, p.ways + ways, false⟩

/-- Joins the open end to something. -/
def join (p : Program) : Program :=
  if p.forks then p.add 0 branchSize else p

/-- Adds a fork that goes on or back to something; it is the open end. -/
def addLoop (p : Program) : Program :=
  { p.join.add 1 branchSize with forks := true }

/-- A way to add something to a program. -/
abbrev Growth := Program → Program

/-- Adds a number of copies, as long as a program stays within a limit. -/
def addCopies (limit : Nat) (grow : Growth) : Nat → Growth
  | 0, p => p.add 1 0
  | 1, p => grow p
  | count + 2, p =>
    let p := grow p
    if p.size ≤ limit then addCopies limit grow (count + 1) p.join else p

/-- Adds a number of copies with a fork before each, from which there is a way
past the rest, as long as a program stays within a limit. -/
def addOptional (limit : Nat) (grow : Growth) : Nat → Growth
  | 0, p => p
  | count + 1, p =>
    let p := (grow (p.add 1 0)).join.add 0 (2 * branchSize)
    if p.size ≤ limit then addOptional limit grow count p else p

/-- Adds a number of copies or more. If what is repeated may be the empty text,
the loop is one fork and whether it is entered another. -/
def addAtLeast (limit : Nat) (grow : Growth) (mayBeEmpty : Bool) : Nat → Growth
  | 0, p =>
    if mayBeEmpty then (grow p).addLoop.join.add 2 (2 * branchSize)
    else { (grow (p.add 1 0)).join.add 0 branchSize with forks := true }
  | 1, p => (grow p).addLoop
  | count + 2, p => (grow (addCopies limit grow (count + 1) p).join).addLoop

/-- Adds a repetition. -/
def addTimes (limit : Nat) (grow : Growth) (mayBeEmpty : Bool) (least : Nat) :
    Option Nat → Growth
  | none => addAtLeast limit grow mayBeEmpty least
  | some most => fun p =>
    if least = 0 ∧ most = 1 then (grow (p.add 1 0)).join.add 1 (2 * branchSize)
    else
      let p := addCopies limit grow least p
      if least = most then p else addOptional limit grow (most - least) (p.join.add 1 0)

/-- Adds a class. ASCII characters are read by one state. -/
def addClass (direction : Direction) (set : CharSet) (p : Program) : Program :=
  if set.isAscii then p.add 2 (rowSize * set.intervals.length)
  else
    let rows := rowsOfSet set
    match direction with
    | .forward =>
      let states := (continuations 4 rows).eraseDups
      let ways := states.foldl (fun count state => count + (groupRows state).length) 0
      p.add (states.length + 1) (rowSize * ways)
    | .backward =>
      let states := addRows (p.states + 2) (p.states + 1) rows
      p.add (states - p.states) (branchSize * rows.length)

end Program

/-! ### Alternations of texts -/

/-- Texts by their first byte. -/
def groupByHead : List (List UInt8) → List (UInt8 × List (List UInt8))
  | [] => []
  | [] :: texts => groupByHead texts
  | (b :: bs) :: texts => insertHead b bs (groupByHead texts)
where
  insertHead (b : UInt8) (bs : List UInt8) :
      List (UInt8 × List (List UInt8)) → List (UInt8 × List (List UInt8))
    | [] => [(b, [bs])]
    | (c, group) :: groups =>
      if b = c then (c, bs :: group) :: groups else (c, group) :: insertHead b bs groups

/-- The runs of texts between those that are empty. -/
def runsOfTexts : List (List UInt8) → List (List (List UInt8))
  | [] => [[]]
  | [] :: texts => [] :: runsOfTexts texts
  | text :: texts =>
    match runsOfTexts texts with
    | [] => [[text]]
    | run :: runs => (text :: run) :: runs

/-- Empty texts in front say no more than one. -/
def dropRepeatedEmpty : List (List UInt8) → List (List UInt8)
  | [] :: texts => [] :: texts.dropWhile (·.isEmpty)
  | texts => texts

/-- Adds a tree of texts, in which texts share what they begin with, unless one
that is preferred to the later ones ends in between. Where texts end, the tree
is left for a state that is not added here. The texts are not longer than
`fuel`. -/
def Program.addTree : Nat → List (List UInt8) → Program → Program
  | 0, _, p => p
  | fuel + 1, texts, p =>
    if texts.all (·.isEmpty) then p
    else
      let runs := (runsOfTexts (dropRepeatedEmpty texts)).map groupByHead
      let ways := runs.filter (!·.isEmpty)
      let rows := ways.foldl
        (fun count run => if run.length = 1 then count else count + run.length) 0
      let branches := ways.length + runs.length - 1
      let p := p.add (1 + ways.length) (branchSize * branches + rowSize * rows)
      (ways.flatMap fun run => run.map Prod.snd).foldl (fun p below => addTree fuel below p) p

/-- Adds an alternation of texts. -/
def Program.addTexts (direction : Direction) (texts : List (List Char)) (p : Program) : Program :=
  let texts := texts.map fun text => direction.order (utf8Bytes text)
  (p.add 1 0).addTree ((texts.map List.length).foldl max 0) texts

/-- The texts that plans are, if each is one. -/
def texts? : List Plan → Option (List (List Char))
  | [] => some []
  | .text chars :: ps => (texts? ps).map (chars :: ·)
  | _ => none

/-! ### Whole programs -/

mutual

/-- Adds a plan. A capture marks its two ends, which is of no use when the text
is read backward. -/
def Plan.addTo (limit : Nat) (direction : Direction) : Plan → Program.Growth
  | .empty, p => p.add 1 0
  | .text chars, p => p.add (utf8Length chars) 0
  | .oneOf set, p => p.addClass direction set
  | .look _, p => p.add 1 0
  | .capture body, p =>
    match direction with
    | .forward => (body.addTo limit direction (p.add 1 0)).join.add 1 0
    | .backward => body.addTo limit direction p
  | .repeated least most _ body, p =>
    let mayBeEmpty := body.minLength.all (· == 0)
    p.addTimes limit (fun p => body.addTo limit direction p) mayBeEmpty least most
  | .concat parts, p => Plan.addParts limit direction parts p
  | .alternation branches, p =>
    match texts? branches with
    | some texts => p.addTexts direction texts
    | none => Plan.addBranches limit direction 2 branches p

/-- Adds plans one behind the other. -/
def Plan.addParts (limit : Nat) (direction : Direction) : List Plan → Program.Growth
  | [], p => p
  | [part], p => part.addTo limit direction p
  | part :: parts, p =>
    match direction with
    | .forward => Plan.addParts limit direction parts (part.addTo limit direction p).join
    | .backward => part.addTo limit direction (Plan.addParts limit direction parts p).join

/-- Adds plans one beside the other. The fork before them and the state where
their ends meet come behind the first `untilFork` of them. -/
def Plan.addBranches (limit : Nat) (direction : Direction) (untilFork : Nat) :
    List Plan → Program.Growth
  | [], p => p
  | branch :: branches, p =>
    let p := (branch.addTo limit direction p).join.add 0 branchSize
    let p := if untilFork = 1 then p.add 2 0 else p
    Plan.addBranches limit direction (untilFork - 1) branches p

end

/-- Whether a sequence is anchored, given for each part whether it is and
whether it is void. -/
def firstAnchored : List (Bool × Bool) → Bool
  | [] => false
  | (anchored, void) :: parts => anchored || (void && firstAnchored parts)

mutual

/-- Whether all that a plan matches stands at the end of the text at which
reading starts. -/
def Plan.isAnchored (direction : Direction) : Plan → Bool
  | .look condition =>
    match direction with
    | .forward => condition == .textStart
    | .backward => condition == .textEnd
  | .capture body => body.isAnchored direction
  | .repeated least _ _ body => 0 < least && body.isAnchored direction
  | .concat parts => firstAnchored (direction.order (Plan.anchors direction parts))
  | .alternation branches => (Plan.anchors direction branches).all (·.1)
  | _ => false

/-- For each plan whether it is anchored and whether it is void. -/
def Plan.anchors (direction : Direction) : List Plan → List (Bool × Bool)
  | [] => []
  | p :: ps => (p.isAnchored direction, p.isVoid) :: Plan.anchors direction ps

end

/-- What goes before a program: a loop over all bytes, so that it may start
anywhere, unless there is only one place where it can start. -/
def Plan.lead (direction : Direction) (plan : Plan) : Program :=
  if plan.isAnchored direction then Program.empty.add 1 0
  else Program.empty.add 3 (rowSize + 2 * branchSize)

/-- The program that reads in a direction, as far as a limit lets it grow.
Reading forward, it marks the two ends of the match; its last state says that
it has matched. -/
def Plan.program (limit : Nat) (direction : Direction) (plan : Plan) : Program :=
  let lead := plan.lead direction
  match direction with
  | .forward => (plan.addTo limit direction (lead.add 1 0)).join.add 2 0
  | .backward => (plan.addTo limit direction lead).join.add 1 0

/-- Whether what runs a plan stays within a limit. -/
def Plan.fits (limit : Nat) (plan : Plan) : Bool :=
  plan.isNeedles ||
    ((plan.program limit .forward).size ≤ limit && (plan.program limit .backward).size ≤ limit)

end NodeSieve.Regex
