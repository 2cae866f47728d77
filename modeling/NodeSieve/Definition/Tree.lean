import NodeSieve.Filter.Predicate
import NodeSieve.Filter.Sign

/-!
# Definitions

The tree of a filter definition as it is written. Patterns and type names are
still the texts that stand between the quotes: none has been compiled, and
escapes are untouched.
-/

namespace NodeSieve

inductive Definition where
  | folder
  | all (children : List Definition)
  | any (children : List Definition)
  | field (field : Field) (sign : Sign) (patterns : List (List Char))
  | type (sign : Sign) (literals : List (List Char))
deriving Repr, Inhabited

namespace Definition

mutual

/-- How many combinators enclose one another at the deepest place. -/
def nesting : Definition → Nat
  | .all children => maxNesting children + 1
  | .any children => maxNesting children + 1
  | _ => 0

def maxNesting : List Definition → Nat
  | [] => 0
  | d :: ds => max d.nesting (maxNesting ds)

end

mutual

/-- The definition with the combinators exchanged and every sign flipped. -/
def dual : Definition → Definition
  | .folder => .folder
  | .all children => .any (dualAll children)
  | .any children => .all (dualAll children)
  | .field f sign patterns => .field f sign.flip patterns
  | .type sign literals => .type sign.flip literals

def dualAll : List Definition → List Definition
  | [] => []
  | d :: ds => d.dual :: dualAll ds

end

/-- Induction over a definition, with a hypothesis for each child of a
combinator. -/
theorem induction {motive : Definition → Prop} (folder : motive .folder)
    (all : ∀ ds, (∀ d ∈ ds, motive d) → motive (.all ds))
    (any : ∀ ds, (∀ d ∈ ds, motive d) → motive (.any ds))
    (field : ∀ f sign patterns, motive (.field f sign patterns))
    (type : ∀ sign literals, motive (.type sign literals)) (d : Definition) : motive d :=
  @Definition.rec motive (fun ds => ∀ d ∈ ds, motive d) folder all any field type
    (List.forall_mem_nil _) (fun _ _ h hs => List.forall_mem_cons.mpr ⟨h, hs⟩) d

/-! ## Equality -/

mutual

def decEq : (d e : Definition) → Decidable (d = e)
  | .folder, .folder => isTrue rfl
  | .all ds, .all es =>
    haveI := decEqAll ds es
    decidable_of_decidable_of_eq (all.injEq ds es).symm
  | .any ds, .any es =>
    haveI := decEqAll ds es
    decidable_of_decidable_of_eq (any.injEq ds es).symm
  | .field f s ps, .field g t qs => decidable_of_decidable_of_eq (field.injEq f s ps g t qs).symm
  | .type s ls, .type t ms => decidable_of_decidable_of_eq (type.injEq s ls t ms).symm
  | .folder, .all _ | .folder, .any _ | .folder, .field .. | .folder, .type ..
  | .all _, .folder | .all _, .any _ | .all _, .field .. | .all _, .type ..
  | .any _, .folder | .any _, .all _ | .any _, .field .. | .any _, .type ..
  | .field .., .folder | .field .., .all _ | .field .., .any _ | .field .., .type ..
  | .type .., .folder | .type .., .all _ | .type .., .any _ | .type .., .field .. =>
    isFalse nofun

def decEqAll : (ds es : List Definition) → Decidable (ds = es)
  | [], [] => isTrue rfl
  | d :: ds, e :: es =>
    haveI := decEq d e
    haveI := decEqAll ds es
    decidable_of_decidable_of_eq (List.cons.injEq d ds e es).symm
  | [], _ :: _ | _ :: _, [] => isFalse nofun

end

instance : DecidableEq Definition :=
  decEq

end Definition

end NodeSieve
