/-!
# What a reader leaves

Readers go on with what other readers leave of a text, and come to an end
because that is never more than there was. Here the text that is left is paired
with this fact, so that it can be used where the reader goes on.
-/

namespace NodeSieve.Regex

/-- What is left of a text: at most `bound` characters. -/
abbrev Remainder (bound : Nat) : Type :=
  { rest : List Char // rest.length ≤ bound }

/-- A reading, with the fact that it leaves at most `bound` characters. -/
def bounded {ε α : Type} (bound : Nat) (read : Except ε (α × List Char))
    (h : ∀ a rest, read = .ok (a, rest) → rest.length ≤ bound) :
    Except ε (α × Remainder bound) :=
  match read, h with
  | .error e, _ => .error e
  | .ok (a, rest), h => .ok (a, ⟨rest, h a rest rfl⟩)

/-- A reading that may not apply, with the fact that it leaves at most `bound`
characters. -/
def bounded? {α : Type} (bound : Nat) (read : Option (α × List Char))
    (h : ∀ a rest, read = some (a, rest) → rest.length ≤ bound) : Option (α × Remainder bound) :=
  match read, h with
  | none, _ => none
  | some (a, rest), h => some (a, ⟨rest, h a rest rfl⟩)

theorem bounded_eq_ok_iff {ε α : Type} {bound : Nat} {read : Except ε (α × List Char)}
    {h : ∀ a rest, read = .ok (a, rest) → rest.length ≤ bound} {a : α} {rest : Remainder bound} :
    bounded bound read h = .ok (a, rest) ↔ read = .ok (a, rest.1) := by
  cases read with
  | error e => simp [bounded]
  | ok r =>
    simp only [bounded, Except.ok.injEq, Prod.ext_iff, Subtype.ext_iff]

theorem bounded_eq_error_iff {ε α : Type} {bound : Nat} {read : Except ε (α × List Char)}
    {h : ∀ a rest, read = .ok (a, rest) → rest.length ≤ bound} {e : ε} :
    bounded bound read h = .error e ↔ read = .error e := by
  cases read <;> simp [bounded]

theorem bounded?_eq_some_iff {α : Type} {bound : Nat} {read : Option (α × List Char)}
    {h : ∀ a rest, read = some (a, rest) → rest.length ≤ bound} {a : α}
    {rest : Remainder bound} :
    bounded? bound read h = some (a, rest) ↔ read = some (a, rest.1) := by
  cases read with
  | none => simp [bounded?]
  | some r =>
    simp only [bounded?, Option.some.injEq, Prod.ext_iff, Subtype.ext_iff]

theorem bounded?_eq_none_iff {α : Type} {bound : Nat} {read : Option (α × List Char)}
    {h : ∀ a rest, read = some (a, rest) → rest.length ≤ bound} :
    bounded? bound read h = none ↔ read = none := by
  cases read <;> simp [bounded?]

end NodeSieve.Regex
