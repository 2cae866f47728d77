/-!
# What can go wrong

A definition can be refused for how it is written or for a pattern in it. A
configuration can be refused for one of its definitions, for a value out of
range or for not being readable at all.
-/

namespace NodeSieve

/-- Why a filter definition is refused. Positions count bytes of the
definition's UTF-8 form. A diagnostic is the closing line of what the pattern
engine has to say. -/
inductive FilterError where
  | parse (position : Nat) (expected found : String)
  | compile (predicate pattern diagnostic : String)
deriving DecidableEq, Repr

namespace FilterError

/-- The wording of an error. That of a refused pattern ends with the diagnostic,
so it lacks the excerpt from the pattern that the engine puts in front. -/
def message : FilterError → String
  | .parse position expected found =>
    s!"Filter parse error at position {position}: expected {expected}, found {found}"
  | .compile predicate pattern diagnostic =>
    s!"Invalid pattern '{pattern}' in {predicate}(): {diagnostic}"

def isParse : FilterError → Bool
  | .parse .. => true
  | .compile .. => false

def isCompile (e : FilterError) : Bool :=
  !e.isParse

def position? : FilterError → Option Nat
  | .parse position _ _ => some position
  | .compile .. => none

end FilterError

/-- Why an operation fails. -/
inductive SieveError where
  | filter (cause : FilterError)
  | filterRejected (key : String) (cause : FilterError)
  | configUnreadable (key reason : String)
  | configValue (key value reason : String)
  | illegalArgument (text : String)
deriving DecidableEq, Repr

namespace SieveError

def message : SieveError → String
  | .filter cause => cause.message
  | .filterRejected key cause => s!"Filter '{key}' rejected: {cause.message}"
  | .configUnreadable key reason => s!"Configuration parse error for '{key}': {reason}"
  | .configValue key value reason =>
    s!"Invalid configuration for '{key}': value='{value}', reason={reason}"
  | .illegalArgument text => s!"Illegal argument: {text}"

/-- The error of the definition behind an error, if a definition is to blame. -/
def filterError? : SieveError → Option FilterError
  | .filter cause | .filterRejected _ cause => some cause
  | _ => none

/-- The error that another one reports on. A definition's error on its own
reports on nothing. -/
def cause? : SieveError → Option FilterError
  | .filterRejected _ cause => some cause
  | _ => none

end SieveError

/-! ## What a computation that may fail answers -/

theorem map_eq_ok_iff {ε α β : Type} {x : Except ε α} {f : α → β} {b : β} :
    x.map f = .ok b ↔ ∃ a, x = .ok a ∧ f a = b := by
  cases x with
  | error e => exact ⟨nofun, nofun⟩
  | ok a =>
      constructor
      · intro h
        exact ⟨a, rfl, Except.ok.inj h⟩
      · intro h
        obtain ⟨a', ha, rfl⟩ := h
        rw [Except.ok.inj ha]
        rfl

theorem map_eq_error_iff {ε α β : Type} {x : Except ε α} {f : α → β} {e : ε} :
    x.map f = .error e ↔ x = .error e := by
  cases x with
  | error e' => exact ⟨fun h => congrArg _ (Except.error.inj h), fun h => h ▸ rfl⟩
  | ok a => exact ⟨nofun, nofun⟩

theorem bind_eq_ok_iff {ε α β : Type} {x : Except ε α} {f : α → Except ε β} {b : β} :
    x >>= f = .ok b ↔ ∃ a, x = .ok a ∧ f a = .ok b := by
  cases x with
  | error e => exact ⟨nofun, nofun⟩
  | ok a =>
      constructor
      · intro h
        exact ⟨a, rfl, h⟩
      · intro h
        obtain ⟨a', ha, h⟩ := h
        rw [Except.ok.inj ha]
        exact h

end NodeSieve
