import NodeSieve.Regex.Look
import NodeSieve.Unicode.CharSet

/-!
# What a pattern means

A term is a pattern from which all spelling is gone: classes are sets of
characters, and flags have been applied. `Term.Spans` says which stretches of a
text a term matches, given the text before and behind the stretch, which
conditions on a place look at. A text matches when some stretch of it is
matched.
-/

namespace NodeSieve.Regex

open NodeSieve.Unicode

/-- A regular expression, as what it matches. -/
inductive Term where
  | empty
  | oneOf (set : CharSet)
  | look (condition : Look)
  | cat (first second : Term)
  | alt (left right : Term)
  | repeated (least : Nat) (most : Option Nat) (body : Term)
deriving DecidableEq, Repr

/-- `r.Spans before stretch behind` if `r` matches a stretch of text between
`before` and `behind`. -/
inductive Term.Spans : Term → List Char → List Char → List Char → Prop
  | empty {before behind : List Char} : Spans .empty before [] behind
  | oneOf {set : CharSet} {c : Char} {before behind : List Char} (h : set.contains c = true) :
    Spans (.oneOf set) before [c] behind
  | look {condition : Look} {before behind : List Char}
    (h : condition.holds before.getLast? behind.head? = true) :
    Spans (.look condition) before [] behind
  | cat {r s : Term} {before x y behind : List Char} (hr : Spans r before x (y ++ behind))
    (hs : Spans s (before ++ x) y behind) : Spans (.cat r s) before (x ++ y) behind
  | left {r s : Term} {before x behind : List Char} (h : Spans r before x behind) :
    Spans (.alt r s) before x behind
  | right {r s : Term} {before x behind : List Char} (h : Spans s before x behind) :
    Spans (.alt r s) before x behind
  | done {most : Option Nat} {r : Term} {before behind : List Char} :
    Spans (.repeated 0 most r) before [] behind
  | again {least : Nat} {most : Option Nat} {r : Term} {before x y behind : List Char}
    (hmost : most ≠ some 0) (hr : Spans r before x (y ++ behind))
    (hs : Spans (.repeated (least - 1) (most.map (· - 1)) r) (before ++ x) y behind) :
    Spans (.repeated least most r) before (x ++ y) behind

/-- A text in which a term matches some stretch. -/
def Term.Matches (r : Term) (text : List Char) : Prop :=
  ∃ before stretch behind, text = before ++ stretch ++ behind ∧ r.Spans before stretch behind

namespace Term

/-- One term after another. -/
def catAll : List Term → Term
  | [] => .empty
  | [r] => r
  | r :: rs => .cat r (catAll rs)

/-- One term or another; of no terms at all, none matches. -/
def altAll : List Term → Term
  | [] => .oneOf .empty
  | [r] => r
  | r :: rs => .alt r (altAll rs)

def char (c : Char) : Term :=
  .oneOf (.singleton c)

end Term

end NodeSieve.Regex
