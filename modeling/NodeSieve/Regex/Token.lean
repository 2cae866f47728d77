import NodeSieve.Regex.BracketClass
import NodeSieve.Regex.Group
import NodeSieve.Regex.Repetition

/-!
# The pieces of a pattern

A pattern is read piece by piece: a part that matches something by itself, a
repetition of the part before it, a bar, the two ends of a group, a flag
directive. A repetition needs a part to repeat, and its absence is reported
before anything that is wrong with the repetition itself.
-/

namespace NodeSieve.Regex

/-- A piece of a pattern. -/
inductive Token where
  | part (a : Ast)
  | repeated (quantifier : Quantifier)
  | bar
  | opened (kind : GroupKind) (name : Option (List Char))
  | directive (change : FlagChange)
  | closed

def Token.ofGroupStart : GroupStart → Token
  | .directive change => .directive change
  | .flagged change => .opened (.flags change) none
  | .capture => .opened .capture none
  | .named name => .opened .capture (some name)

/-- The repetitions that are one character long. -/
def simpleBounds? : Char → Option Bounds
  | '?' => some ⟨0, some 1⟩
  | '*' => some ⟨0, none⟩
  | '+' => some ⟨1, none⟩
  | _ => none

/-- A repetition that starts with `c`, if `c` starts one; `rest` is what
follows. -/
def readRepetition? (verbose : Bool) (c : Char) (rest : List Char) :
    Option (Except Error (Quantifier × List Char)) :=
  match simpleBounds? c with
  | some bounds => some (.ok (readLazyMark bounds rest))
  | none => if c = '\x7b' then some (readCounted verbose rest) else none

/-- A piece that is no repetition and starts with `c`; `rest` is what
follows. -/
def readPlain (verbose : Bool) (c : Char) (rest : List Char) :
    Except Error (Token × List Char) :=
  match c with
  | '(' => (readGroupStart verbose rest).map fun read => (.ofGroupStart read.1, read.2)
  | ')' => .ok (.closed, rest)
  | '|' => .ok (.bar, rest)
  | '[' => (readClass verbose rest).map fun read => (.part (.bracketed read.1.1 read.1.2), read.2)
  | '\\' => (readEscape verbose rest).map fun read => (.part read.1.toAst, read.2)
  | '.' => .ok (.part .dot, rest)
  | '^' => .ok (.part (.assertion .lineStart), rest)
  | '$' => .ok (.part (.assertion .lineEnd), rest)
  | c => .ok (.part (.literal (.verbatim c)), rest)

/-- The piece that starts with `c`; `canRepeat` tells whether there is
something to repeat. -/
def readToken (verbose canRepeat : Bool) (c : Char) (rest : List Char) :
    Except Error (Token × List Char) :=
  match readRepetition? verbose c rest with
  | some read =>
    if canRepeat then read.map fun read => (.repeated read.1, read.2)
    else .error .repetitionMissing
  | none => readPlain verbose c rest

/-! ### What is left is no longer -/

theorem map_read_length_le {α β : Type} {read : Except Error (α × List Char)} {f : α → β}
    {value : β} {cs rest : List Char}
    (hread : ∀ a tail, read = .ok (a, tail) → tail.length ≤ cs.length)
    (h : (read.map fun r => (f r.1, r.2)) = .ok (value, rest)) : rest.length ≤ cs.length := by
  cases hr : read with
  | error e => simp [hr, Except.map] at h
  | ok r =>
    simp only [hr, Except.map, Except.ok.injEq, Prod.mk.injEq] at h
    rw [← h.2]
    exact hread r.1 r.2 hr

theorem readPlain_length_le {verbose : Bool} {c : Char} {cs rest : List Char} {token : Token}
    (h : readPlain verbose c cs = .ok (token, rest)) : rest.length ≤ cs.length := by
  unfold readPlain at h
  split at h
  case h_1 => exact map_read_length_le (fun _ _ => readGroupStart_length_le) h
  case h_4 =>
    exact map_read_length_le (f := fun r : Bool × ClassSet => Token.part (.bracketed r.1 r.2))
      (fun _ _ hr => Nat.le_of_lt (readClass_length_lt hr)) h
  case h_5 =>
    exact map_read_length_le (f := fun p : Primitive => Token.part p.toAst)
      (fun _ _ => readEscape_length_le) h
  all_goals simp_all

theorem readRepetition?_length_le {verbose : Bool} {c : Char} {cs rest : List Char}
    {quantifier : Quantifier}
    (h : readRepetition? verbose c cs = some (.ok (quantifier, rest))) :
    rest.length ≤ cs.length := by
  unfold readRepetition? at h
  split at h
  · rename_i bounds _
    simp only [Option.some.injEq, Except.ok.injEq] at h
    have := readLazyMark_length_le bounds cs
    rwa [h] at this
  · split at h
    · simp only [Option.some.injEq] at h
      exact readCounted_length_le h
    · simp at h

theorem readToken_length_le {verbose canRepeat : Bool} {c : Char} {cs rest : List Char}
    {token : Token} (h : readToken verbose canRepeat c cs = .ok (token, rest)) :
    rest.length ≤ cs.length := by
  unfold readToken at h
  split at h
  · rename_i read hread
    split at h
    · refine map_read_length_le (f := Token.repeated) (fun quantifier tail hr => ?_) h
      rw [hr] at hread
      exact readRepetition?_length_le hread
    · simp at h
  · exact readPlain_length_le h

end NodeSieve.Regex
