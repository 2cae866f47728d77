import NodeSieve.Filter.Verdict

/-!
# Selecting resources

A selection takes the resources that a filter accepts, in their order and up to
a limit, and stops drawing as soon as the limit is reached.
-/

namespace NodeSieve.Filter

/-- The resources that a selection takes and the number of those that it
draws. -/
structure Selection where
  taken : List Resource
  drawn : Nat
deriving DecidableEq, Repr

/-- Draws resources one by one until `limit` of them have been accepted. -/
def select (filter : Filter) (limit : Nat) : List Resource → Selection
  | [] => ⟨[], 0⟩
  | r :: rs =>
    match limit with
    | 0 => ⟨[], 0⟩
    | limit + 1 =>
      if filter.accepts r then
        let rest := select filter limit rs
        ⟨r :: rest.taken, rest.drawn + 1⟩
      else
        let rest := select filter (limit + 1) rs
        ⟨rest.taken, rest.drawn + 1⟩

end NodeSieve.Filter
