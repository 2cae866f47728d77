import NodeSieve.Unicode.Blank

/-!
# Blanks and comments in verbose mode

With the flag `x` a pattern may be laid out: blanks between its parts do not
count, and `#` opens a comment up to the end of the line. Without the flag both
are ordinary characters.
-/

namespace NodeSieve.Regex

open NodeSieve.Unicode

/-- What is left behind blanks and comments; `inComment` tells whether the text
starts in one. -/
def skipLayout (inComment : Bool) : List Char → List Char
  | [] => []
  | c :: cs =>
    if inComment then skipLayout (c != '\n') cs
    else if isBlank c then skipLayout false cs
    else if c = '#' then skipLayout true cs
    else c :: cs

/-- What is left behind blanks and comments, if the mode is verbose. -/
def skipTrivia (verbose : Bool) (cs : List Char) : List Char :=
  if verbose then skipLayout false cs else cs

theorem skipLayout_length_le (inComment : Bool) (cs : List Char) :
    (skipLayout inComment cs).length ≤ cs.length := by
  induction cs generalizing inComment with
  | nil => simp [skipLayout]
  | cons c cs ih =>
    simp only [skipLayout, List.length_cons]
    split
    · exact Nat.le_succ_of_le (ih _)
    · split
      · exact Nat.le_succ_of_le (ih _)
      · split
        · exact Nat.le_succ_of_le (ih _)
        · exact Nat.le_refl _

theorem skipTrivia_length_le (verbose : Bool) (cs : List Char) :
    (skipTrivia verbose cs).length ≤ cs.length := by
  unfold skipTrivia
  split
  · exact skipLayout_length_le _ _
  · exact Nat.le_refl _

theorem skipTrivia_length_lt (verbose : Bool) {cs : List Char} {bound : Nat}
    (h : cs.length ≤ bound) : (skipTrivia verbose cs).length < bound + 1 :=
  Nat.lt_succ_of_le (Nat.le_trans (skipTrivia_length_le verbose cs) h)

@[simp] theorem skipTrivia_false (cs : List Char) : skipTrivia false cs = cs := rfl

/-- The first character that is not blank, looking behind one `#` as well. -/
def firstVisible (behindHash : Bool) : List Char → Option Char
  | [] => none
  | c :: cs =>
    if isBlank c then firstVisible behindHash cs
    else if !behindHash && c = '#' then firstVisible true cs
    else some c

/-- The character that comes next. In verbose mode blanks do not count and
neither does the `#` of a comment, though the comment's own text does. -/
def peekVisible (verbose : Bool) (cs : List Char) : Option Char :=
  if verbose then firstVisible false cs else cs.head?

end NodeSieve.Regex
