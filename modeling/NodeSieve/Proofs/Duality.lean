import NodeSieve.Proofs.Meaning
import NodeSieve.Proofs.Trimming

/-!
# The dual of a definition

Exchanging `and` with `or` and flipping every sign turns a definition into one
that says the opposite. For combinators that is De Morgan's law, and for a test
it is what a sign means: `-` denies of the whole list of patterns what `+` says
of it, whatever fields the resource has.

A test for several types is the case to watch, since it is lowered to a
combinator of its own that depends on the sign. It need not be looked at here:
the law is proved of what definitions say (`holds_dual_iff`), and lowering
keeps that. `Folder()` has no sign to flip, so a definition must not contain
one.

Neither the combinators nor the signs have a say in what has to be compiled. A
definition and its dual have the same row of texts (`entries_dual`) and fail
with the same error.
-/

namespace NodeSieve.Definition

theorem dualAll_eq_map (ds : List Definition) : dualAll ds = ds.map dual := by
  induction ds with
  | nil => rfl
  | cons d ds ih => rw [dualAll, ih, List.map_cons]

theorem entries_dual (d : Definition) : d.dual.entries = d.entries := by
  have hall : ∀ ds : List Definition, (∀ d ∈ ds, d.dual.entries = d.entries) →
      entriesAll (dualAll ds) = entriesAll ds := by
    intro ds ih
    rw [entriesAll_eq_flatMap, entriesAll_eq_flatMap, dualAll_eq_map, List.flatMap_map]
    exact List.flatMap_congr ih
  induction d using Definition.induction with
  | folder => rfl
  | all ds ih => exact hall ds ih
  | any ds ih => exact hall ds ih
  | field => rfl
  | type => rfl

theorem error?_lower_dual (options : ParseOptions) (d : Definition) :
    error? (d.dual.lower options) = error? (d.lower options) := by
  rw [error?_lower, error?_lower, entries_dual]

section

variable {options : ParseOptions} {r : Resource} {ds : List Definition}

theorem holds_dual_all_iff (h : ∀ d ∈ ds, Holds options r d.dual ↔ ¬ Holds options r d) :
    Holds options r (Definition.all ds).dual ↔ ¬ Holds options r (.all ds) := by
  rw [dual, dualAll_eq_map, holds_any_iff, holds_all_iff]
  simp only [List.mem_map, exists_exists_and_eq_and, Classical.not_forall, exists_prop]
  exact exists_congr fun d => and_congr_right (h d)

theorem holds_dual_any_iff (h : ∀ d ∈ ds, Holds options r d.dual ↔ ¬ Holds options r d) :
    Holds options r (Definition.any ds).dual ↔ ¬ Holds options r (.any ds) := by
  rw [dual, dualAll_eq_map, holds_all_iff, holds_any_iff, List.forall_mem_map]
  simp only [not_exists, not_and]
  exact forall₂_congr h

/-- The dual of a definition says that the definition does not hold. -/
theorem holds_dual_iff {d : Definition} (hfolder : ¬ PartOf .folder d) :
    Holds options r d.dual ↔ ¬ Holds options r d := by
  induction d using Definition.induction with
  | folder => exact absurd .here hfolder
  | all ds ih => exact holds_dual_all_iff fun d hd => ih d hd fun h => hfolder (.all hd h)
  | any ds ih => exact holds_dual_any_iff fun d hd => ih d hd fun h => hfolder (.any hd h)
  | field f sign sources =>
      rw [dual, holds_field_iff, holds_field_iff]
      exact sign.says_flip_iff
  | type sign literals =>
      rw [dual, holds_type_iff, holds_type_iff]
      exact sign.says_flip_iff

end

/-- A definition without `Folder()` and its dual are lowered or refused
together, with the same error for a pattern, and their filters give opposite
verdicts on every resource. -/
theorem lower_dual {d : Definition} (hfolder : ¬ PartOf .folder d) (options : ParseOptions) :
    (∀ e, d.lower options = .error e ↔ d.dual.lower options = .error e) ∧
      (∀ e, d.lower options = .error e → e.isCompile = true) ∧
      ∀ t, d.lower options = .ok t →
        ∃ t', d.dual.lower options = .ok t' ∧ ∀ r, t'.accepts r = !t.accepts r := by
  have herror : ∀ e, d.lower options = .error e ↔ d.dual.lower options = .error e := by
    intro e
    rw [← error?_eq_some_iff, ← error?_eq_some_iff, error?_lower_dual]
  refine ⟨herror, fun e => isCompile_of_lower, fun t ht => ?_⟩
  cases hdual : d.dual.lower options with
  | error e =>
      rw [(herror e).mpr hdual] at ht
      cases ht
  | ok t' =>
      refine ⟨t', rfl, fun r => ?_⟩
      rw [Bool.eq_iff_iff, Bool.not_eq_true', ← Bool.not_eq_true, accepts_iff_holds r hdual,
        accepts_iff_holds r ht]
      exact holds_dual_iff hfolder

/-- Two types that the rules look for in two places, and a field that the
resource does not have. -/
theorem lower_dual_of_mixed_types :
    let d := Definition.all [.type .exclude ["mix:a".toList, "b\\,c".toList],
      .any [.field .mimeType .include ["^x".toList], .field .name .exclude ["d".toList]]]
    let file := ((Resource.ofPath "/e").withMixinType "mix:b").withPrimaryType "b"
    ¬ PartOf .folder d ∧ ∃ t t', d.lower .default = .ok t ∧ d.dual.lower .default = .ok t' ∧
      t.accepts file = true ∧ t'.accepts file = false := by
  intro d file
  have hfolder : ¬ PartOf .folder d := by
    intro (h : PartOf .folder (.all _))
    cases h with
    | all hy h =>
        rcases List.mem_pair.mp hy with rfl | rfl
        · cases h
        · cases h with
          | any hy h => rcases List.mem_pair.mp hy with rfl | rfl <;> cases h
  have hlower : (d.lower .default).map (·.accepts file) = .ok true := by decide +kernel
  obtain ⟨t, ht, haccepts⟩ := map_eq_ok_iff.mp hlower
  obtain ⟨-, -, hdual⟩ := lower_dual hfolder .default
  obtain ⟨t', ht', hverdict⟩ := hdual t ht
  refine ⟨hfolder, t, t', ht, ht', haccepts, ?_⟩
  rw [hverdict, haccepts]
  rfl

end NodeSieve.Definition
