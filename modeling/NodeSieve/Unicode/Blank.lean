/-!
# Blank characters

Blanks are the characters with the Unicode property `White_Space`: the ASCII
blanks with vertical tab and form feed, next line, no-break space and the
spaces and separators of the general punctuation and ideographic blocks.
Zero-width characters are not blank.
-/

namespace NodeSieve.Unicode

def isBlank (c : Char) : Bool :=
  let n := c.toNat
  (9 ≤ n && n ≤ 13) || n == 0x20 || n == 0x85 || n == 0xA0 || n == 0x1680 ||
    (0x2000 ≤ n && n ≤ 0x200A) || n == 0x2028 || n == 0x2029 || n == 0x202F || n == 0x205F ||
    n == 0x3000

/-- The text without its leading blanks. -/
def dropBlanks (cs : List Char) : List Char :=
  cs.dropWhile isBlank

/-- The text without its trailing blanks. -/
def dropTrailingBlanks : List Char → List Char
  | [] => []
  | c :: cs =>
    match dropTrailingBlanks cs with
    | [] => if isBlank c then [] else [c]
    | rest => c :: rest

/-- The text without the blanks at either end. -/
def trimBlanks (cs : List Char) : List Char :=
  dropTrailingBlanks (dropBlanks cs)

theorem dropBlanks_length_le (cs : List Char) : (dropBlanks cs).length ≤ cs.length := by
  induction cs with
  | nil => simp [dropBlanks]
  | cons c cs ih =>
    simp only [dropBlanks, List.dropWhile_cons] at ih ⊢
    split
    · simp only [List.length_cons]
      omega
    · exact Nat.le_refl _

end NodeSieve.Unicode
