import NodeSieve.Regex.Match
import NodeSieve.Regex.Program
import NodeSieve.Regex.Reader
import NodeSieve.Regex.Resolve

/-!
# From a pattern's text to its term

Three things can be wrong with a pattern, and they are looked at in this order:
how it is written, what its parts stand for, and how large it is.
-/

namespace NodeSieve.Regex

/-- The term of a pattern, if it is well written and stays within a size in
bytes. -/
def compile (ignoreCase : Bool) (sizeLimit : Nat) (pattern : List Char) : Except Error Term :=
  match Ast.read pattern with
  | .error e => .error e
  | .ok ast =>
    match ast.resolve (.start ignoreCase) with
    | .error e => .error e
    | .ok (expr, _) =>
      if expr.plan.fits sizeLimit then .ok expr.term else .error (.programTooLarge sizeLimit)

/-- The limit decides whether a pattern has a term, but not which one. -/
theorem compile_unique {ignoreCase : Bool} {sizeLimit sizeLimit' : Nat} {pattern : List Char}
    {term term' : Term} (h : compile ignoreCase sizeLimit pattern = .ok term)
    (h' : compile ignoreCase sizeLimit' pattern = .ok term') : term = term' := by
  rw [compile] at h h'
  split at h
  · cases h
  · next ast hread =>
      simp only [hread] at h'
      split at h
      · cases h
      · next expr modes hresolve =>
          simp only [hresolve] at h'
          split at h
          · split at h'
            · exact (Except.ok.inj h).symm.trans (Except.ok.inj h')
            · cases h'
          · cases h

end NodeSieve.Regex
