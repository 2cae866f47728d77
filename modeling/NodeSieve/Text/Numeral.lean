/-!
# Numerals

The digits of the radices up to sixteen, in either case, and the numbers that
runs of them spell.
-/

namespace NodeSieve.Text

/-- The value of a digit under a radix. -/
def digitValue? (radix : Nat) (c : Char) : Option Nat :=
  let value? :=
    if c.isDigit then some (c.toNat - '0'.toNat)
    else if 'a' ≤ c ∧ c ≤ 'f' then some (c.toNat - 'a'.toNat + 10)
    else if 'A' ≤ c ∧ c ≤ 'F' then some (c.toNat - 'A'.toNat + 10)
    else none
  value?.filter (· < radix)

/-- The number that a run of digits spells; an empty run spells none. -/
def numeral? (radix : Nat) : List Char → Option Nat
  | [] => none
  | cs => cs.foldlM (fun n c => (digitValue? radix c).map (n * radix + ·)) 0

/-- A decimal numeral behind an optional sign, which has to be among those
allowed. -/
def signedNumeral? (radix : Nat) (signs : List Char) : List Char → Option (Bool × Nat)
  | [] => none
  | c :: cs =>
    if signs.contains c then (numeral? radix cs).map ((c == '-'), ·)
    else (numeral? radix (c :: cs)).map (false, ·)

/-- The character of a code point, if there is one. -/
def charOfPoint? (point : Nat) : Option Char :=
  if point.isValidChar then some (Char.ofNat point) else none

end NodeSieve.Text
