import NodeSieve.Filter.Pattern
import NodeSieve.Filter.Predicate
import NodeSieve.Filter.Sign

/-!
# Filters

A filter is a tree of tests. It accepts a resource or rejects it; the tree that
accepts everything stands for a definition that says nothing.
-/

namespace NodeSieve

inductive Filter where
  | acceptAll
  | all (children : List Filter)
  | any (children : List Filter)
  | leaf (predicate : Predicate) (sign : Sign) (patterns : List Pattern)
  | folder
deriving Repr, Inhabited

namespace Filter

/-- Induction over a filter, with a hypothesis for each child of a
combinator. -/
theorem induction {motive : Filter → Prop} (acceptAll : motive .acceptAll)
    (all : ∀ xs, (∀ x ∈ xs, motive x) → motive (.all xs))
    (any : ∀ xs, (∀ x ∈ xs, motive x) → motive (.any xs))
    (leaf : ∀ predicate sign patterns, motive (.leaf predicate sign patterns))
    (folder : motive .folder) (t : Filter) : motive t :=
  @Filter.rec motive (fun xs => ∀ x ∈ xs, motive x) acceptAll all any leaf folder
    (List.forall_mem_nil _) (fun _ _ h hs => List.forall_mem_cons.mpr ⟨h, hs⟩) t

mutual

/-- Whether two filters are the same, where patterns are the same if their
texts are. -/
def same : Filter → Filter → Bool
  | .acceptAll, .acceptAll => true
  | .all xs, .all ys => sameAll xs ys
  | .any xs, .any ys => sameAll xs ys
  | .leaf p s ps, .leaf q t qs => p == q && s == t && ps == qs
  | .folder, .folder => true
  | _, _ => false

def sameAll : List Filter → List Filter → Bool
  | [], [] => true
  | x :: xs, y :: ys => same x y && sameAll xs ys
  | _, _ => false

end

instance : BEq Filter where
  beq := same

mutual

/-- Whether two filters are one tree. This is more than `same` asks for: here
patterns count with what they mean. -/
def decEq : (x y : Filter) → Decidable (x = y)
  | .acceptAll, .acceptAll | .folder, .folder => isTrue rfl
  | .all xs, .all ys =>
    haveI := decEqAll xs ys
    decidable_of_decidable_of_eq (all.injEq xs ys).symm
  | .any xs, .any ys =>
    haveI := decEqAll xs ys
    decidable_of_decidable_of_eq (any.injEq xs ys).symm
  | .leaf p s ps, .leaf q t qs => decidable_of_decidable_of_eq (leaf.injEq p s ps q t qs).symm
  | .acceptAll, .all _ | .acceptAll, .any _ | .acceptAll, .leaf .. | .acceptAll, .folder
  | .all _, .acceptAll | .all _, .any _ | .all _, .leaf .. | .all _, .folder
  | .any _, .acceptAll | .any _, .all _ | .any _, .leaf .. | .any _, .folder
  | .leaf .., .acceptAll | .leaf .., .all _ | .leaf .., .any _ | .leaf .., .folder
  | .folder, .acceptAll | .folder, .all _ | .folder, .any _ | .folder, .leaf .. =>
    isFalse nofun

def decEqAll : (xs ys : List Filter) → Decidable (xs = ys)
  | [], [] => isTrue rfl
  | x :: xs, y :: ys =>
    haveI := decEq x y
    haveI := decEqAll xs ys
    decidable_of_decidable_of_eq (List.cons.injEq x xs y ys).symm
  | [], _ :: _ | _ :: _, [] => isFalse nofun

end

instance : DecidableEq Filter :=
  decEq

def isAcceptAll : Filter → Bool
  | .acceptAll => true
  | _ => false

mutual

/-- The number of filters on the longest way down. -/
def depth : Filter → Nat
  | .all children => maxDepth children + 1
  | .any children => maxDepth children + 1
  | _ => 1

def maxDepth : List Filter → Nat
  | [] => 0
  | x :: xs => max x.depth (maxDepth xs)

end

mutual

/-- The number of tests. -/
def leafCount : Filter → Nat
  | .acceptAll => 0
  | .all children => leafCounts children
  | .any children => leafCounts children
  | .leaf .. => 1
  | .folder => 1

def leafCounts : List Filter → Nat
  | [] => 0
  | x :: xs => x.leafCount + leafCounts xs

end

theorem maxDepth_le_iff {xs : List Filter} {n : Nat} :
    maxDepth xs ≤ n ↔ ∀ x ∈ xs, x.depth ≤ n := by
  induction xs with
  | nil => exact ⟨nofun, fun _ => Nat.zero_le n⟩
  | cons x xs ih => rw [maxDepth, Nat.max_le, ih, List.forall_mem_cons]

theorem leafCount_le_leafCounts {xs : List Filter} {x : Filter} (h : x ∈ xs) :
    x.leafCount ≤ leafCounts xs := by
  induction h with
  | head xs => exact Nat.le_add_right _ _
  | tail y _ ih => exact Nat.le_trans ih (Nat.le_add_left _ _)

end Filter

end NodeSieve
