import NodeSieve.Regex.Remainder
import NodeSieve.Regex.Token

/-!
# Reading a pattern

Reading keeps a frame for each group that is open and for the whole pattern.
Verbose mode belongs to a frame: a group starts with the mode around it, flags
inside change it, and the end of the group brings the old mode back. The
deepest path into the tree is measured once all is read, so an error in the
pattern's text comes before its depth.
-/

namespace NodeSieve.Regex

/-- A group that is still open: the branches that are finished and the parts of
the current one, latest first. -/
structure Frame where
  kind : GroupKind
  verbose : Bool
  branches : List Ast
  parts : List Ast

namespace Frame

def start (kind : GroupKind) (verbose : Bool) : Frame :=
  ⟨kind, verbose, [], []⟩

/-- All that has been read of a group. -/
def ast (frame : Frame) : Ast :=
  .ofBranches (frame.branches.reverse ++ [.ofParts frame.parts.reverse])

def push (frame : Frame) (part : Ast) : Frame :=
  { frame with parts := part :: frame.parts }

/-- Ends a branch. -/
def nextBranch (frame : Frame) : Frame :=
  { frame with branches := .ofParts frame.parts.reverse :: frame.branches, parts := [] }

/-- Sets flags for the rest of the group. -/
def direct (frame : Frame) (change : FlagChange) : Frame :=
  { frame.push (.flags change) with verbose := change.apply .verbose frame.verbose }

/-- Whether the latest part can be repeated; a directive can not. -/
def canRepeat (frame : Frame) : Bool :=
  match frame.parts with
  | [] | .empty :: _ | .flags _ :: _ => false
  | _ => true

/-- Repeats the latest part. -/
def repeatLast (frame : Frame) (quantifier : Quantifier) : Frame :=
  match frame.parts with
  | [] => frame
  | part :: parts =>
    let { bounds, lazy } := quantifier
    { frame with parts := .repetition bounds.least bounds.most lazy part :: parts }

/-- The frame of a group that opens inside another. -/
def inner (frame : Frame) (kind : GroupKind) : Frame :=
  match kind with
  | .capture => .start kind frame.verbose
  | .flags change => .start kind (change.apply .verbose frame.verbose)

end Frame

/-- A pattern that is being read: the names that its groups bear so far, the
frame of the innermost open group, and the frames around it, innermost
first. -/
structure ReadState where
  names : List (List Char)
  frame : Frame
  outer : List Frame

namespace ReadState

def start : ReadState :=
  ⟨[], .start .capture false, []⟩

/-- What a piece does to a pattern that is being read. -/
def add (state : ReadState) : Token → Except Error ReadState
  | .part a => .ok { state with frame := state.frame.push a }
  | .repeated quantifier => .ok { state with frame := state.frame.repeatLast quantifier }
  | .bar => .ok { state with frame := state.frame.nextBranch }
  | .directive change => .ok { state with frame := state.frame.direct change }
  | .opened kind none =>
    .ok { state with frame := state.frame.inner kind, outer := state.frame :: state.outer }
  | .opened kind (some name) =>
    if state.names.contains name then .error .groupNameDuplicate
    else .ok ⟨name :: state.names, state.frame.inner kind, state.frame :: state.outer⟩
  | .closed =>
    match state.outer with
    | [] => .error .groupUnopened
    | parent :: outer =>
      let group := Ast.group state.frame.kind state.frame.ast
      .ok { state with frame := parent.push group, outer := outer }

/-- The whole pattern, if no group is open. -/
def finish (state : ReadState) : Except Error Ast :=
  if state.outer.isEmpty then .ok state.frame.ast else .error .groupUnclosed

end ReadState

/-- Reads on to the end of a pattern. The text does not start with what verbose
mode skips. -/
def readFrom (state : ReadState) (cs : List Char) : Except Error Ast :=
  match cs with
  | [] => state.finish
  | c :: rest =>
    match bounded rest.length (readToken state.frame.verbose state.frame.canRepeat c rest)
      (fun _ _ => readToken_length_le) with
    | .error e => .error e
    | .ok (token, rest') =>
      match state.add token with
      | .error e => .error e
      | .ok state' => readFrom state' (skipTrivia state'.frame.verbose rest')
termination_by cs.length
decreasing_by exact skipTrivia_length_lt state'.frame.verbose rest'.2

/-- What a piece leads to. -/
theorem readFrom_cons {state : ReadState} {c : Char} {rest tail : List Char} {token : Token}
    (h : readToken state.frame.verbose state.frame.canRepeat c rest = .ok (token, tail)) :
    readFrom state (c :: rest) =
      match state.add token with
      | .error e => .error e
      | .ok state' => readFrom state' (skipTrivia state'.frame.verbose tail) := by
  have hbounded : bounded rest.length
      (readToken state.frame.verbose state.frame.canRepeat c rest)
      (fun _ _ => readToken_length_le) = .ok (token, ⟨tail, readToken_length_le h⟩) :=
    bounded_eq_ok_iff.mpr h
  rw [readFrom, hbounded]

/-- How many levels a pattern may have. -/
def maxNesting : Nat := 250

/-- The tree of a pattern. -/
def Ast.read (cs : List Char) : Except Error Ast :=
  match readFrom .start cs with
  | .error e => .error e
  | .ok ast => if ast.nesting ≤ maxNesting then .ok ast else .error (.nestingTooDeep maxNesting)

end NodeSieve.Regex
