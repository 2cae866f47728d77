import NodeSieve.Regex.Term

/-!
# Patterns without flags

An expression is a pattern whose flags have been applied, so each class is a
set of characters and each assertion a condition on a place. It still knows
which parentheses capture, which parts stand side by side and which repetitions
are greedy. What it matches is the business of its term, which knows none of
this.
-/

namespace NodeSieve.Regex

open NodeSieve.Unicode

/-- A pattern whose flags have been applied. -/
inductive Expr where
  | empty
  | oneOf (set : CharSet)
  | look (condition : Look)
  | capture (body : Expr)
  | repeated (least : Nat) (most : Option Nat) (greedy : Bool) (body : Expr)
  | concat (parts : List Expr)
  | alternation (branches : List Expr)

mutual

/-- What an expression matches. -/
def Expr.term : Expr → Term
  | .empty => .empty
  | .oneOf set => .oneOf set
  | .look condition => .look condition
  | .capture body => body.term
  | .repeated least most _ body => .repeated least most body.term
  | .concat parts => .catAll (Expr.terms parts)
  | .alternation branches => .altAll (Expr.terms branches)

/-- What each expression of a list matches. -/
def Expr.terms : List Expr → List Term
  | [] => []
  | e :: es => e.term :: Expr.terms es

end

end NodeSieve.Regex
