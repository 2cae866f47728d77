import NodeSieve.Filter.Compiled

/-!
# Shared filters

Holders of a filter can tell whether they hold the very same one, not only an
equal one. So every filter that is handed out gets a number that no other one
has had, drawn from a supply.
-/

namespace NodeSieve

/-- A filter that is shared between its holders. -/
structure Shared where
  id : Nat
  filter : CompiledFilter
deriving Repr, Inhabited

/-- The numbers that are still unused: all from `next` on. -/
structure Supply where
  next : Nat
deriving DecidableEq, Repr

namespace Supply

def start : Supply := ⟨0⟩

/-- Shares a filter under a fresh number. -/
def share (supply : Supply) (filter : CompiledFilter) : Shared × Supply :=
  (⟨supply.next, filter⟩, ⟨supply.next + 1⟩)

/-- Compiles a definition and shares its filter. -/
def compile (supply : Supply) (options : ParseOptions) (source : String) :
    Except FilterError Shared × Supply :=
  match CompiledFilter.compile options source with
  | .error e => (.error e, supply)
  | .ok filter => (.ok (supply.share filter).1, (supply.share filter).2)

end Supply

end NodeSieve
