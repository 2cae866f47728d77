import NodeSieve.Filter.Resource
import NodeSieve.Filter.Tree

/-!
# What a filter says of a resource

A test holds if one of its patterns matches one of the texts it looks at, or
with the sign `-`, if none does. A field that is absent has no text, so nothing
matches it.
-/

namespace NodeSieve

/-- The texts that a field of a resource has. -/
def Field.subjects (r : Resource) : Field → List String
  | .name => [r.name]
  | .path => [r.path]
  | .primaryType => [r.primaryType]
  | .resourceType => r.resourceType.toList
  | .mimeType => r.mimeType.toList
  | .mixinType => r.mixinTypes

/-- The texts that a predicate looks at. -/
def Predicate.subjects (r : Resource) : Predicate → List String
  | .field f => f.subjects r
  | .genericType _ => r.primaryType :: r.mixinTypes

namespace Filter

/-- Whether some pattern matches some text that a predicate looks at. -/
def anyMatch (predicate : Predicate) (patterns : List Pattern) (r : Resource) : Bool :=
  (predicate.subjects r).any fun subject => patterns.any (·.isMatch subject)

mutual

/-- Whether a filter accepts a resource. -/
def accepts (r : Resource) : Filter → Bool
  | .acceptAll => true
  | .all children => allAccept r children
  | .any children => anyAccepts r children
  | .leaf predicate sign patterns => sign.apply (anyMatch predicate patterns r)
  | .folder => r.isFolder

def allAccept (r : Resource) : List Filter → Bool
  | [] => true
  | x :: xs => accepts r x && allAccept r xs

def anyAccepts (r : Resource) : List Filter → Bool
  | [] => false
  | x :: xs => accepts r x || anyAccepts r xs

end

theorem anyMatch_iff {predicate : Predicate} {patterns : List Pattern} {r : Resource} :
    anyMatch predicate patterns r = true ↔
      ∃ p ∈ patterns, ∃ text ∈ predicate.subjects r, p.isMatch text = true := by
  rw [anyMatch, List.any_eq_true]
  constructor
  · intro h
    obtain ⟨text, htext, hany⟩ := h
    obtain ⟨p, hp, hmatch⟩ := List.any_eq_true.mp hany
    exact ⟨p, hp, text, htext, hmatch⟩
  · intro h
    obtain ⟨p, hp, text, htext, hmatch⟩ := h
    exact ⟨text, htext, List.any_eq_true.mpr ⟨p, hp, hmatch⟩⟩

theorem accepts_all_iff {r : Resource} {xs : List Filter} :
    accepts r (.all xs) = true ↔ ∀ x ∈ xs, accepts r x = true := by
  rw [accepts]
  induction xs with
  | nil => exact ⟨fun _ => List.forall_mem_nil _, fun _ => rfl⟩
  | cons x xs ih => rw [allAccept, Bool.and_eq_true, ih, List.forall_mem_cons]

theorem accepts_any_iff {r : Resource} {xs : List Filter} :
    accepts r (.any xs) = true ↔ ∃ x ∈ xs, accepts r x = true := by
  rw [accepts]
  induction xs with
  | nil => simp [anyAccepts]
  | cons x xs ih =>
      rw [anyAccepts, Bool.or_eq_true, ih]
      simp only [List.mem_cons, exists_eq_or_imp]

end Filter

end NodeSieve
