import NodeSieve.Filter.Predicate

/-!
# Type rules

A type's name alone does not say whether it is a primary type or a mixin. Rules
tell by how the name starts, and the first rule that applies decides; a name
that no rule covers can be either.
-/

namespace NodeSieve

/-- Where a type is to be looked for. -/
inductive TypeTarget where
  | primaryType
  | mixinType
  | generic
deriving DecidableEq, Repr

/-- Types whose names start in a certain way belong to a target. -/
structure TypeRule where
  start : String
  target : TypeTarget
deriving DecidableEq, Repr

structure TypeRules where
  rules : List TypeRule
deriving DecidableEq, Repr

namespace TypeRules

/-- By default, names in the mixin namespace are mixin types. -/
def default : TypeRules :=
  ⟨[⟨"mix:", .mixinType⟩]⟩

/-- Adds a rule behind all others. -/
def withRule (rules : TypeRules) (rule : TypeRule) : TypeRules :=
  ⟨rules.rules ++ [rule]⟩

/-- Whether a rule covers a name. -/
def covers (name : List Char) (rule : TypeRule) : Bool :=
  rule.start.toList.isPrefixOf name

/-- The target of the first rule that covers a name. -/
def target (rules : TypeRules) (name : List Char) : TypeTarget :=
  match rules.rules.find? (covers name) with
  | some rule => rule.target
  | none => .generic

/-- What a test for a type looks at. -/
def resolve (rules : TypeRules) (name : List Char) : Predicate :=
  match rules.target name with
  | .primaryType => .field .primaryType
  | .mixinType => .field .mixinType
  | .generic => .genericType (String.ofList name)

/-- The target that a name gets: that of the first rule whose start it has, and
without such a rule it can be either. -/
inductive Selects (rules : TypeRules) (name : List Char) : TypeTarget → Prop
  | first {before after : List TypeRule} {rule : TypeRule}
      (hrules : rules.rules = before ++ rule :: after) (hrule : rule.start.toList <+: name)
      (hbefore : ∀ other ∈ before, ¬ other.start.toList <+: name) : Selects rules name rule.target
  | unruled (h : ∀ rule ∈ rules.rules, ¬ rule.start.toList <+: name) : Selects rules name .generic

theorem covers_iff {name : List Char} {rule : TypeRule} :
    covers name rule = true ↔ rule.start.toList <+: name :=
  List.isPrefixOf_iff_prefix

theorem selects_iff {rules : TypeRules} {name : List Char} {target : TypeTarget} :
    rules.Selects name target ↔ rules.target name = target := by
  rw [TypeRules.target]
  constructor
  · intro h
    cases h with
    | first hrules hrule hbefore =>
        rw [hrules, List.find?_append, List.find?_eq_none.mpr, List.find?_cons_of_pos]
        · rfl
        · exact covers_iff.mpr hrule
        · exact fun other hother h => hbefore other hother (covers_iff.mp h)
    | unruled h =>
        rw [List.find?_eq_none.mpr]
        exact fun rule hrule hcovers => h rule hrule (covers_iff.mp hcovers)
  · intro h
    subst h
    cases hfind : rules.rules.find? (covers name) with
    | none =>
        exact .unruled fun rule hrule hprefix =>
          List.find?_eq_none.mp hfind rule hrule (covers_iff.mpr hprefix)
    | some rule =>
        obtain ⟨hcovers, before, after, hrules, hbefore⟩ := List.find?_eq_some_iff_append.mp hfind
        refine .first hrules (covers_iff.mp hcovers) fun other hother hprefix => ?_
        have hother := hbefore other hother
        rw [covers_iff.mpr hprefix] at hother
        cases hother

end TypeRules

end NodeSieve
