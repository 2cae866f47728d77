import NodeSieve.Regex.Expr
import NodeSieve.Text.Utf8

/-!
# What a program is built from

A plan is an expression in a normal form: characters side by side are one text,
nothing stands inside a concatenation or an alternation that could be part of
it, an alternation of characters or of classes is a class, and what all its
branches begin with stands before it.
-/

namespace NodeSieve.Regex

open NodeSieve.Unicode NodeSieve.Text

/-- An expression in the form that its program is built from. -/
inductive Plan where
  | empty
  | text (chars : List Char)
  | oneOf (set : CharSet)
  | look (condition : Look)
  | capture (body : Plan)
  | repeated (least : Nat) (most : Option Nat) (greedy : Bool) (body : Plan)
  | concat (parts : List Plan)
  | alternation (branches : List Plan)

namespace Plan

mutual

/-- The number of plans that a plan is made of, itself included. -/
def nodes : Plan → Nat
  | .capture body => body.nodes + 1
  | .repeated _ _ _ body => body.nodes + 1
  | .concat parts => nodesAll parts + 1
  | .alternation branches => nodesAll branches + 1
  | _ => 1

def nodesAll : List Plan → Nat
  | [] => 0
  | p :: ps => p.nodes + nodesAll ps

end

mutual

/-- Whether a plan matches nothing but the empty text. -/
def isVoid : Plan → Bool
  | .empty => true
  | .text _ => false
  | .oneOf _ => false
  | .look _ => true
  | .capture body => body.isVoid
  | .repeated _ most _ body => most == some 0 || (most.isSome && body.isVoid)
  | .concat parts => allVoid parts
  | .alternation branches => allVoid branches

def allVoid : List Plan → Bool
  | [] => true
  | p :: ps => p.isVoid && allVoid ps

end

mutual

/-- The length in bytes of the shortest text that a plan may match, if it may
match any. -/
def minLength : Plan → Option Nat
  | .empty => some 0
  | .text chars => some (utf8Length chars)
  | .oneOf set => set.intervals.head?.map fun i => (Char.ofNat i.lo).utf8Size
  | .look _ => some 0
  | .capture body => body.minLength
  | .repeated least _ _ body => body.minLength.map (· * least)
  | .concat parts => (minLengths parts).map (·.foldl (· + ·) 0)
  | .alternation branches => (minLengths branches).bind (·.min?)

/-- As `minLength`, of every plan of a list, if there is one for each. -/
def minLengths : List Plan → Option (List Nat)
  | [] => some []
  | p :: ps =>
    match p.minLength, minLengths ps with
    | some n, some ns => some (n :: ns)
    | _, _ => none

end

mutual

/-- Whether two plans are one. No two captures are, because each has a group of
its own. -/
def sameAs : Plan → Plan → Bool
  | .empty, .empty => true
  | .text s, .text t => s == t
  | .oneOf s, .oneOf t => s == t
  | .look a, .look b => a == b
  | .repeated m n g p, .repeated m' n' g' q => m == m' && n == n' && g == g' && p.sameAs q
  | .concat ps, .concat qs => sameAll ps qs
  | .alternation ps, .alternation qs => sameAll ps qs
  | _, _ => false

def sameAll : List Plan → List Plan → Bool
  | [], [] => true
  | p :: ps, q :: qs => p.sameAs q && sameAll ps qs
  | _, _ => false

end

/-- A class, or the text of its only member. -/
def ofSet (set : CharSet) : Plan :=
  match set.single? with
  | some c => .text [c]
  | none => .oneOf set

/-- A repetition; what matches only the empty text need not be matched twice. -/
def times (least : Nat) (most : Option Nat) (greedy : Bool) (body : Plan) : Plan :=
  let bounds : Nat × Option Nat :=
    if body.isVoid then (min least 1, some (min (most.getD 1) 1)) else (least, most)
  match bounds with
  | (0, some 0) => .empty
  | (1, some 1) => body
  | (least, most) => .repeated least most greedy body

/-- The parts of a concatenation in place of it, and nothing in place of what
is empty. -/
def flattenParts : List Plan → List Plan
  | [] => []
  | .empty :: ps => flattenParts ps
  | .concat parts :: ps => parts ++ flattenParts ps
  | p :: ps => p :: flattenParts ps

/-- One text in place of texts that stand next to each other. -/
def joinTexts : List Plan → List Plan
  | [] => []
  | p :: ps =>
    match p, joinTexts ps with
    | .text s, .text t :: rest => .text (s ++ t) :: rest
    | p, rest => p :: rest

/-- One plan after another. -/
def catAll (parts : List Plan) : Plan :=
  match joinTexts (flattenParts parts) with
  | [] => .empty
  | [p] => p
  | ps => .concat ps

/-- The branches of an alternation in place of it. -/
def flattenBranches : List Plan → List Plan
  | [] => []
  | .alternation branches :: ps => branches ++ flattenBranches ps
  | p :: ps => p :: flattenBranches ps

/-- The characters that plans stand for, if each stands for one. -/
def chars? : List Plan → Option (List Char)
  | [] => some []
  | .text [c] :: ps => (chars? ps).map (c :: ·)
  | _ => none

/-- The union of plans that are classes. -/
def classes? : List Plan → Option CharSet
  | [] => some .empty
  | .oneOf set :: ps => (classes? ps).map (·.union set)
  | _ => none

/-- The parts of plans that are concatenations. -/
def parts? : List Plan → Option (List (List Plan))
  | [] => some []
  | .concat parts :: ps => (parts? ps).map (parts :: ·)
  | _ => none

/-- What two lists of plans begin with. -/
def sharedParts : List Plan → List Plan → List Plan
  | p :: ps, q :: qs => if p.sameAs q then p :: sharedParts ps qs else []
  | _, _ => []

/-- What several concatenations begin with, if it is anything, and what is left
of each. -/
def splitShared? (branches : List Plan) : Option (List Plan × List (List Plan)) :=
  match parts? branches with
  | some (first :: rest) =>
    match rest.foldl sharedParts first with
    | [] => none
    | shared => some (shared, (first :: rest).map (·.drop shared.length))
  | _ => none

/-- One plan or another. What all begin with is taken out as often as `fuel`
allows; each time a part less is left of the first branch. -/
def altAll (fuel : Nat) (branches : List Plan) : Plan :=
  match flattenBranches branches with
  | [] => .oneOf .empty
  | [p] => p
  | ps =>
    match chars? ps, classes? ps with
    | some cs, _ => ofSet (.ofPoints (cs.map Char.toNat))
    | none, some set => ofSet set
    | none, none =>
      match fuel, splitShared? ps with
      | fuel + 1, some (shared, rests) => catAll (shared ++ [altAll fuel (rests.map catAll)])
      | _, _ => .alternation ps

end Plan

mutual

/-- The normal form of an expression. -/
def Expr.plan : Expr → Plan
  | .empty => .empty
  | .oneOf set => .ofSet set
  | .look condition => .look condition
  | .capture body => .capture body.plan
  | .repeated least most greedy body => .times least most greedy body.plan
  | .concat parts => .catAll (Expr.plans parts)
  | .alternation branches =>
    let plans := Expr.plans branches
    .altAll (Plan.nodesAll plans) plans

def Expr.plans : List Expr → List Plan
  | [] => []
  | e :: es => e.plan :: Expr.plans es

end

end NodeSieve.Regex
