import NodeSieve.Regex.Ast
import NodeSieve.Regex.Error
import NodeSieve.Regex.Trivia
import NodeSieve.Unicode.Additions

/-!
# What an opening parenthesis starts

A group that captures, with or without a name; a group with flags of its own;
or a directive that sets flags for the rest of the group it stands in.
Look-around is recognised and refused.
-/

namespace NodeSieve.Regex

open NodeSieve.Unicode

/-- What stands behind an opening parenthesis. -/
inductive GroupStart where
  | directive (change : FlagChange)
  | flagged (change : FlagChange)
  | capture
  | named (name : List Char)

/-- The characters of a group's name; a digit, a dot or a bracket can not come
first. -/
def isNameChar (first : Bool) (c : Char) : Bool :=
  c == '_' ||
    if first then isAlphabetic c
    else c == '.' || c == '[' || c == ']' || isAlphanumeric c

/-- A group's name up to the closing angle bracket; `read` holds what is read,
latest first. -/
def readGroupName (read : List Char) : List Char → Except Error (List Char × List Char)
  | [] => .error .groupNameUnclosed
  | c :: cs =>
    if c = '>' then
      if read.isEmpty then .error .groupNameEmpty else .ok (read.reverse, cs)
    else if isNameChar read.isEmpty c then readGroupName (c :: read) cs
    else .error .groupNameInvalid

/-- A run of flags as far as it is read: `negated` once a hyphen has come, and
`dangling` while nothing has come behind it. -/
structure FlagRun where
  change : FlagChange
  negated : Bool
  dangling : Bool

def FlagRun.start : FlagRun := ⟨⟨[], []⟩, false, false⟩

/-- Adds a flag, or the hyphen from which on flags are cleared. -/
def FlagRun.push (run : FlagRun) (c : Char) : Except Error FlagRun :=
  if c = '-' then
    if run.negated then .error .flagRepeatedNegation
    else .ok { run with negated := true, dangling := true }
  else
    match Flag.ofLetter? c with
    | none => .error .flagUnrecognized
    | some flag =>
      if flag ∈ run.change.on ∨ flag ∈ run.change.off then .error .flagDuplicate
      else if run.negated then
        .ok ⟨{ run.change with off := run.change.off ++ [flag] }, true, false⟩
      else .ok ⟨{ run.change with on := run.change.on ++ [flag] }, false, false⟩

/-- Flags up to a colon, which opens a group, or a closing parenthesis, which
ends a directive. A directive without flags is a question mark with nothing to
repeat. -/
def readFlags (run : FlagRun) : List Char → Except Error (GroupStart × List Char)
  | [] => .error .flagUnfinished
  | c :: cs =>
    if c = ':' ∨ c = ')' then
      if run.dangling then .error .flagDanglingNegation
      else if c = ':' then .ok (.flagged run.change, cs)
      else if run.change = ⟨[], []⟩ then .error .repetitionMissing
      else .ok (.directive run.change, cs)
    else
      match run.push c with
      | .error e => .error e
      | .ok run => readFlags run cs

/-- What stands behind an opening parenthesis, up to where its expression
starts. -/
def readGroupStart (verbose : Bool) (cs : List Char) : Except Error (GroupStart × List Char) :=
  let named (rest : List Char) : Except Error (GroupStart × List Char) :=
    (readGroupName [] rest).map fun read => (.named read.1, read.2)
  match skipTrivia verbose cs with
  | '?' :: '=' :: _ | '?' :: '!' :: _ | '?' :: '<' :: '=' :: _ | '?' :: '<' :: '!' :: _ =>
    .error .lookAround
  | '?' :: 'P' :: '<' :: rest => named rest
  | '?' :: '<' :: rest => named rest
  | ['?'] => .error .groupUnclosed
  | '?' :: rest => readFlags .start rest
  | rest => .ok (.capture, rest)

/-! ### What is left is no longer -/

theorem readGroupName_length_le {read name cs rest : List Char}
    (h : readGroupName read cs = .ok (name, rest)) : rest.length ≤ cs.length := by
  fun_induction readGroupName read cs with
  | case1 | case2 | case5 => simp at h
  | case3 => simp_all
  | case4 _ c cs _ _ ih =>
    have := ih h
    simp only [List.length_cons]
    omega

theorem readFlags_length_le {run : FlagRun} {start : GroupStart} {cs rest : List Char}
    (h : readFlags run cs = .ok (start, rest)) : rest.length ≤ cs.length := by
  fun_induction readFlags run cs with
  | case1 | case2 | case4 | case6 => simp at h
  | case3 | case5 => simp_all
  | case7 _ c cs _ _ _ ih =>
    have := ih h
    simp only [List.length_cons]
    omega

theorem readGroupStart_length_le {verbose : Bool} {start : GroupStart} {cs rest : List Char}
    (h : readGroupStart verbose cs = .ok (start, rest)) : rest.length ≤ cs.length := by
  have hskip := skipTrivia_length_le verbose cs
  have named {tail : List Char}
      (hn : (readGroupName [] tail).map (fun read => (GroupStart.named read.1, read.2)) =
        .ok (start, rest)) : rest.length ≤ tail.length := by
    cases hr : readGroupName [] tail with
    | error e => simp [hr, Except.map] at hn
    | ok read =>
      have := readGroupName_length_le hr
      simp only [hr, Except.map, Except.ok.injEq, Prod.mk.injEq] at hn
      rw [← hn.2]
      exact this
  simp only [readGroupStart] at h
  split at h
  case h_1 | h_2 | h_3 | h_4 | h_7 => simp at h
  case h_5 heq | h_6 heq =>
    have := named h
    rw [heq] at hskip
    simp only [List.length_cons] at hskip
    omega
  case h_8 heq =>
    have := readFlags_length_le h
    rw [heq] at hskip
    simp only [List.length_cons] at hskip
    omega
  case h_9 => simp_all

end NodeSieve.Regex
