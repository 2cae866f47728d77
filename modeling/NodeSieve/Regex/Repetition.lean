import NodeSieve.Regex.Ast
import NodeSieve.Regex.Error
import NodeSieve.Regex.Trivia
import NodeSieve.Text.Numeral

/-!
# Repetition counts

The braces behind an expression hold one count, or a least count and a comma,
or a least and a most count. Blanks around a count are allowed in every mode.
Counts end at `2 ^ 32 - 1`.
-/

namespace NodeSieve.Regex

open NodeSieve.Unicode NodeSieve.Text

/-- A run of digits, which in verbose mode may be laid out. -/
def readDigits (verbose : Bool) (read : List Char) (cs : List Char) : List Char × List Char :=
  match cs with
  | [] => (read.reverse, [])
  | c :: rest =>
    if c.isDigit then readDigits verbose (c :: read) (skipTrivia verbose rest)
    else (read.reverse, c :: rest)
termination_by cs.length
decreasing_by
  have := skipTrivia_length_le verbose rest
  simp only [List.length_cons]
  omega

/-- The largest count. -/
def maxCount : Nat := UInt32.size - 1

/-- The count that digits spell. -/
def countOfDigits (digits : List Char) : Except Error Nat :=
  match numeral? 10 digits with
  | none => .error .repetitionCountEmpty
  | some n => if n ≤ maxCount then .ok n else .error .decimalInvalid

/-- A count with blanks around it. What is wrong with the count is not reported
before the shape of the braces is clear, so it is part of the answer. -/
def readCount (verbose : Bool) (cs : List Char) : Except Error Nat × List Char :=
  match readDigits verbose [] (dropBlanks cs) with
  | (digits, rest) => (countOfDigits digits, dropBlanks rest)

/-- How often an expression may be repeated. -/
structure Bounds where
  least : Nat
  most : Option Nat
deriving DecidableEq, Repr

/-- A repetition as it is written: the counts, and whether few copies are
preferred to many. -/
structure Quantifier where
  bounds : Bounds
  lazy : Bool
deriving DecidableEq, Repr

def Bounds.isValid (bounds : Bounds) : Bool :=
  match bounds.most with
  | none => true
  | some most => bounds.least ≤ most

/-- The counts in braces, up to the closing brace, which is still to be read. -/
def readBounds (verbose : Bool) (cs : List Char) : Except Error (Bounds × List Char) :=
  match skipTrivia verbose cs with
  | [] => .error .repetitionUnclosed
  | c :: tail =>
    match readCount verbose (c :: tail) with
    | (_, []) => .error .repetitionUnclosed
    | (least, ',' :: rest) =>
      match skipTrivia verbose rest with
      | [] => .error .repetitionUnclosed
      | '\x7d' :: rest => least.map fun n => (⟨n, none⟩, '\x7d' :: rest)
      | rest =>
        match least with
        | .error e => .error e
        | .ok n =>
          match readCount verbose rest with
          | (.error e, _) => .error e
          | (.ok m, rest) => .ok (⟨n, some m⟩, rest)
    | (count, rest) => count.map fun n => (⟨n, some n⟩, rest)

/-- Completes a repetition, which a question mark behind it makes lazy. -/
def readLazyMark (bounds : Bounds) : List Char → Quantifier × List Char
  | '?' :: rest => (⟨bounds, true⟩, rest)
  | rest => (⟨bounds, false⟩, rest)

/-- A counted repetition, behind its opening brace. -/
def readCounted (verbose : Bool) (cs : List Char) : Except Error (Quantifier × List Char) :=
  match readBounds verbose cs with
  | .error e => .error e
  | .ok (bounds, '\x7d' :: rest) =>
    if bounds.isValid then .ok (readLazyMark bounds (skipTrivia verbose rest))
    else .error .repetitionCountInvalid
  | .ok _ => .error .repetitionUnclosed

/-! ### What is left is no longer -/

theorem readDigits_length_le (verbose : Bool) (read cs : List Char) :
    (readDigits verbose read cs).2.length ≤ cs.length := by
  fun_induction readDigits verbose read cs with
  | case1 => simp
  | case2 _ c tail _ ih =>
    have := skipTrivia_length_le verbose tail
    simp only [List.length_cons]
    omega
  | case3 => simp

theorem readCount_length_le (verbose : Bool) (cs : List Char) :
    (readCount verbose cs).2.length ≤ cs.length := by
  have h₁ := dropBlanks_length_le cs
  have h₂ := readDigits_length_le verbose [] (dropBlanks cs)
  have h₃ := dropBlanks_length_le (readDigits verbose [] (dropBlanks cs)).2
  simp only [readCount]
  omega

theorem readLazyMark_length_le (bounds : Bounds) (cs : List Char) :
    (readLazyMark bounds cs).2.length ≤ cs.length := by
  unfold readLazyMark
  split
  · simp
  · exact Nat.le_refl _

theorem mapBounds_rest {count : Except Error Nat} {f : Nat → Bounds} {bounds : Bounds}
    {kept rest : List Char} (h : (count.map fun n => (f n, kept)) = .ok (bounds, rest)) :
    rest = kept := by
  cases count with
  | error e => simp [Except.map] at h
  | ok n =>
    simp only [Except.map, Except.ok.injEq, Prod.mk.injEq] at h
    exact h.2.symm

theorem readBounds_length_le {verbose : Bool} {cs rest : List Char} {bounds : Bounds}
    (h : readBounds verbose cs = .ok (bounds, rest)) : rest.length ≤ cs.length := by
  have hskip := skipTrivia_length_le verbose cs
  unfold readBounds at h
  split at h
  · simp at h
  · rename_i c tail hcs
    have hcount := readCount_length_le verbose (c :: tail)
    rw [hcs] at hskip
    split at h
    · simp at h
    · rename_i least rest₁ hread
      rw [hread] at hcount
      simp only [List.length_cons] at hcount hskip
      have hskip₁ := skipTrivia_length_le verbose rest₁
      split at h
      · simp at h
      · rename_i rest₂ hrest
        have := mapBounds_rest h
        rw [hrest] at hskip₁
        rw [this]
        omega
      · split at h
        · simp at h
        · have hsecond := readCount_length_le verbose (skipTrivia verbose rest₁)
          split at h
          · simp at h
          · rename_i hread₂
            rw [hread₂] at hsecond
            simp only [Except.ok.injEq, Prod.mk.injEq] at h
            rw [← h.2]
            simp only at hsecond
            omega
    · rename_i hread
      rw [hread] at hcount
      have := mapBounds_rest h
      rw [this]
      simp only at hcount
      omega

theorem readCounted_length_le {verbose : Bool} {cs rest : List Char} {quantifier : Quantifier}
    (h : readCounted verbose cs = .ok (quantifier, rest)) : rest.length ≤ cs.length := by
  unfold readCounted at h
  split at h
  · simp at h
  · rename_i bounds tail hbounds
    have := readBounds_length_le hbounds
    have := skipTrivia_length_le verbose tail
    have := readLazyMark_length_le bounds (skipTrivia verbose tail)
    split at h
    · simp only [Except.ok.injEq] at h
      rw [h] at this
      simp_all only [List.length_cons]
      omega
    · simp at h
  · simp at h

end NodeSieve.Regex
