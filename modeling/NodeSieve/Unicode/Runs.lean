import NodeSieve.Unicode.CharSet

/-!
# Run-length tables of characters

The tables of the Unicode Character Database are long lists of intervals, kept
here as text: the lengths of the runs of code points that are out of the set
and in it, in turn, starting with those out of it at zero. A length is a number
in base 26 whose last digit is a small letter and whose other digits are
capital letters, so the text needs no separators: `bkb` is `1, 10, 1`, one code
point out, ten in, one out.
-/

namespace NodeSieve.Unicode

/-- The numbers that a run-length text spells; `acc` holds the capital digits
read so far. -/
def readLengths (acc : Nat) : List Char → List Nat
  | [] => []
  | c :: cs =>
    if c.isUpper then readLengths (acc * 26 + (c.toNat - 'A'.toNat)) cs
    else (acc * 26 + (c.toNat - 'a'.toNat)) :: readLengths 0 cs

/-- The intervals of the runs that are in the set, from the code point `start`
on. -/
def intervalsOfLengths (start : Nat) : List Nat → List Interval
  | out :: size :: rest =>
    let lo := start + out
    ⟨lo, lo + size - 1⟩ :: intervalsOfLengths (lo + size) rest
  | _ => []

/-- The set that the lines of a run-length text spell. -/
def CharSet.ofRuns (lines : List String) : CharSet :=
  ⟨intervalsOfLengths 0 (readLengths 0 (lines.flatMap String.toList))⟩

/-- The row of a table of run-length texts under a name. -/
def runsOf? (table : List (String × List String)) (name : String) : Option CharSet :=
  (table.lookup name).map CharSet.ofRuns

/-- As `runsOf?`, for a name that is known to be in the table. -/
def runsOf (table : List (String × List String)) (name : String) : CharSet :=
  (runsOf? table name).getD .empty

end NodeSieve.Unicode
