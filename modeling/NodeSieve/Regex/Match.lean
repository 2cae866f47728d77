import NodeSieve.Regex.Term

/-!
# Searching a text

The search reads the text once, from left to right, and carries the terms that
are still to be matched by what follows, one list for all places at which a
match may have begun. A character turns each of these terms into the terms that
remain behind it (its partial derivatives), and equal terms are kept once. The
remaining terms are made of pieces of the pattern and smaller counts, so their
number does not depend on the text.
-/

namespace NodeSieve.Regex

namespace Term

/-- Whether a term matches nothing at all at a place between two characters. -/
def nullable (before behind : Option Char) : Term → Bool
  | .empty => true
  | .oneOf _ => false
  | .look condition => condition.holds before behind
  | .cat r s => r.nullable before behind && s.nullable before behind
  | .alt r s => r.nullable before behind || s.nullable before behind
  | .repeated least _ body => least == 0 || body.nullable before behind

/-- One term before another, where nothing need not be kept. -/
def before : Term → Term → Term
  | .empty, s => s
  | r, s => .cat r s

/-- A repetition, where no repetition need not be kept. -/
def times (least : Nat) (most : Option Nat) (body : Term) : Term :=
  if most = some 0 then .empty else .repeated least most body

/-- What may remain of a term behind a character. Where the body of a
repetition can match nothing, the rounds that are owed can all be matched on
the spot, so none is owed any more. -/
def step (previous : Option Char) (c : Char) : Term → List Term
  | .empty => []
  | .oneOf set => if set.contains c then [.empty] else []
  | .look _ => []
  | .cat r s =>
    (r.step previous c).map (·.before s) ++
      (if r.nullable previous (some c) then s.step previous c else [])
  | .alt r s => r.step previous c ++ s.step previous c
  | .repeated least most body =>
    if most = some 0 then []
    else
      let owed := if body.nullable previous (some c) then 0 else least - 1
      (body.step previous c).map (·.before (times owed (most.map (· - 1)) body))

/-- The size of a term, to which its counts belong. -/
def weight : Term → Nat
  | .cat r s => r.weight + s.weight + 1
  | .alt r s => r.weight + s.weight + 1
  | .repeated least most body => least + most.getD 0 + body.weight + 1
  | _ => 1

/-- The largest number of terms that are compared each with each. -/
def maxCompared : Nat := 16

/-- Terms with their weights, each once. Many terms are told apart by a bit of
their weights before they are compared. -/
def distinctFrom : Nat → List (Nat × Term) → List (Nat × Term)
  | 0, rs => rs.eraseDups
  | bit + 1, rs =>
    if rs.length ≤ maxCompared then rs.eraseDups
    else
      distinctFrom bit (rs.filter (·.1.testBit bit)) ++
        distinctFrom bit (rs.filter (!·.1.testBit bit))

/-- The same terms, each once. -/
def distinct (rs : List Term) : List Term :=
  (distinctFrom 12 (rs.map fun r => (r.weight, r))).map (·.2)

/-- Whether some stretch of a text matches, where the stretch may begin behind
`previous` or have begun before, in which case one of the terms `live` remains
to be matched. -/
def search (r : Term) (previous : Option Char) (live : List Term) : List Char → Bool
  | [] => (r :: live).any (·.nullable previous none)
  | c :: cs =>
    (r :: live).any (·.nullable previous (some c)) ||
      search r (some c) (distinct ((r :: live).flatMap (·.step previous c))) cs

/-- Whether some stretch of a text matches. -/
def isMatch (r : Term) (text : List Char) : Bool :=
  r.search none [] text

end Term

end NodeSieve.Regex
