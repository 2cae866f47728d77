import NodeSieve.Proofs.History

/-!
# Activating and reloading agree

A configuration can be put in force in two ways. An activation makes all slots
anew and stops at the first definition that is refused; a reload goes through
slots that are there and collects all refusals. The two are written apart, one
with the slots and their keys named one by one, the other over a list that
pairs slots with definitions.

They agree because both look at the definitions in the same order, under the
same keys and options: an activation reports the head of the list that a
reload would report (`activate_eq_error_iff`), and where that list is empty
both give every slot the filter of its own definition. Nothing of this depends
on what the slots held before, so it is shown for every state, reachable or
not.
-/

namespace NodeSieve.NodeFilters

section

variable {config : FilterConfig}

theorem activate_of_limit_zero (h : config.queryResultLimit = 0) :
    activate config = .error FilterConfig.limitError := by
  rw [activate, FilterConfig.validate, if_pos h]
  rfl

/-- One slot of an activation: the first refusal among this definition and
those behind it is this one's, if it is refused, and else the first of those
behind it. -/
theorem activateSlot_bind_eq_error_iff {α : Type} {supply : Supply} {key : FilterKey}
    {keys : List FilterKey} {e : SieveError} {next : FilterSlot × Supply → Except SieveError α}
    (hnext : ∀ slot, next slot = .error e ↔
      (keys.filterMap fun key => refusal? key.label (config.compiled key)).head? = some e) :
    (activateSlot config supply key >>= next) = .error e ↔
      ((key :: keys).filterMap fun key =>
        refusal? key.label (config.compiled key)).head? = some e := by
  rw [activateSlot, FilterSlot.activate, Supply.compile, List.filterMap_cons,
    FilterConfig.compiled]
  cases CompiledFilter.compile config.parseOptions (config.definition key) with
  | error cause =>
      show Except.error _ = Except.error e ↔ some (SieveError.filterRejected key.label cause) = some e
      rw [Except.error.injEq, Option.some_inj]
  | ok filter => exact hnext _

/-- An activation fails with the first error that a reload would report. -/
theorem activate_eq_error_iff (hlimit : config.queryResultLimit ≠ 0) {e : SieveError} :
    activate config = .error e ↔ config.refusals.head? = some e := by
  rw [activate, FilterConfig.validate, if_neg hlimit, FilterConfig.refusals, slotOrder]
  iterate 5 refine activateSlot_bind_eq_error_iff fun slot => ?_
  constructor
  · intro h
    cases h
  · intro h
    cases h

/-- An activation without a limit of zero succeeds exactly if no definition is
refused. -/
theorem exists_activate_iff (hlimit : config.queryResultLimit ≠ 0) :
    (∃ fresh, activate config = .ok fresh) ↔ config.refusals = [] := by
  rw [← List.head?_eq_none_iff]
  cases hactivate : activate config with
  | ok fresh =>
      refine iff_of_true ⟨fresh, rfl⟩ (Option.eq_none_iff_forall_ne_some.mpr fun e he => ?_)
      rw [(activate_eq_error_iff hlimit).mpr he] at hactivate
      cases hactivate
  | error e =>
      rw [(activate_eq_error_iff hlimit).mp hactivate]
      exact ⟨nofun, nofun⟩

/-! ## The slots behind a list of errors -/

theorem label_injective : Function.Injective FilterKey.label := by
  intro key other
  cases key <;> cases other <;> decide

theorem mem_refusals_iff {e : SieveError} :
    e ∈ config.refusals ↔
      ∃ key cause, config.compiled key = .error cause ∧ e = .filterRejected key.label cause := by
  rw [FilterConfig.refusals, List.mem_filterMap]
  constructor
  · intro h
    obtain ⟨key, -, hkey⟩ := h
    cases hcompiled : config.compiled key with
    | ok filter => rw [hcompiled] at hkey; cases hkey
    | error cause =>
        rw [hcompiled] at hkey
        exact ⟨key, cause, hcompiled, (Option.some.inj hkey).symm⟩
  · intro h
    obtain ⟨key, cause, hcompiled, rfl⟩ := h
    exact ⟨key, mem_slotOrder key, by rw [hcompiled]; rfl⟩

/-- Each key is reported for its own definition. -/
theorem filterRejected_mem_refusals_iff {key : FilterKey} {cause : FilterError} :
    .filterRejected key.label cause ∈ config.refusals ↔ config.compiled key = .error cause := by
  rw [mem_refusals_iff]
  constructor
  · intro h
    obtain ⟨other, cause', hcompiled, heq⟩ := h
    obtain ⟨hlabel, rfl⟩ := SieveError.filterRejected.inj heq
    rwa [label_injective hlabel]
  · exact fun h => ⟨key, cause, h, rfl⟩

/-- The errors of a reload leave out exactly the keys whose slots hold, behind
it, what their definitions compile to. -/
theorem not_refused_iff (hlimit : config.queryResultLimit ≠ 0) (filters : NodeFilters)
    (key : FilterKey) :
    (∀ cause, .filterRejected key.label cause ∉ config.refusals) ↔
      config.compiled key = .ok ((filters.reload config).2.filter key) := by
  have hslot := reload_slot hlimit filters key
  simp only [filterRejected_mem_refusals_iff, filter_eq]
  generalize config.compiled key = result at hslot ⊢
  generalize (filters.reload config).2.slots.get key = slot at hslot ⊢
  cases hslot with
  | refused => exact ⟨fun h => absurd rfl (h _), nofun⟩
  | published => exact ⟨fun _ => rfl, fun _ => nofun⟩

end

/-- On every configuration and over every state, activating and reloading
agree. One succeeds if the other does, and then they publish the same filters
and the same limit. A limit of zero is reported by both, and nothing else, and
the reload changes nothing. A refused definition that ends an activation is
the first that a reload reports, and the slots that hold the filters of the
configuration are those whose keys the report leaves out. -/
theorem activate_agrees_with_reload (config : FilterConfig) (filters : NodeFilters) :
    ((∃ fresh, activate config = .ok fresh) ↔ (filters.reload config).1 = .ok ()) ∧
      (∀ fresh, activate config = .ok fresh →
        (∀ key, (filters.reload config).2.filter key = fresh.filter key) ∧
          (filters.reload config).2.queryResultLimit = fresh.queryResultLimit) ∧
      ∀ e, activate config = .error e →
        (∃ key value reason, e = .configValue key value reason ∧
          filters.reload config = (.error [e], filters)) ∨
        ∃ label cause more, e = .filterRejected label cause ∧
          (filters.reload config).1 = .error (e :: more) ∧
          ∀ key : FilterKey, (∀ cause, .filterRejected key.label cause ∉ e :: more) ↔
            config.compiled key = .ok ((filters.reload config).2.filter key) := by
  by_cases hlimit : config.queryResultLimit = 0
  · rw [activate_of_limit_zero hlimit, reload_of_limit_zero filters hlimit]
    refine ⟨⟨nofun, nofun⟩, nofun, fun e he => ?_⟩
    rw [← Except.error.inj he]
    exact .inl ⟨_, _, _, rfl, rfl⟩
  · have hreload := reload_eq hlimit filters
    refine ⟨?_, ?_, ?_⟩
    · rw [exists_activate_iff hlimit, hreload]
      show config.refusals = [] ↔ ite _ _ _ = _
      split
      · next hnone => exact iff_of_true hnone rfl
      · next hsome => exact ⟨fun h => absurd h hsome, nofun⟩
    · intro fresh hfresh
      obtain ⟨-, hfreshLimit, -, hslots⟩ := activate_eq_ok hfresh
      refine ⟨fun key => ?_, by rw [hreload, hfreshLimit]⟩
      have hnone := (exists_activate_iff hlimit).mp ⟨fresh, hfresh⟩
      have hkey := not_refused_iff hlimit filters key
      obtain ⟨filter, id, hcompiled, -, hslot⟩ := hslots key
      rw [hnone, hcompiled] at hkey
      rw [filter_eq fresh, hslot]
      exact (Except.ok.inj (hkey.mp fun _ => List.not_mem_nil)).symm
    · intro e he
      obtain ⟨more, hrefusals⟩ := List.head?_eq_some_iff.mp ((activate_eq_error_iff hlimit).mp he)
      have hmem : e ∈ config.refusals := hrefusals ▸ List.mem_cons_self ..
      obtain ⟨key, cause, -, hkey⟩ := mem_refusals_iff.mp hmem
      refine .inr ⟨key.label, cause, more, hkey, ?_, fun key => ?_⟩
      · have hsome : config.refusals ≠ [] := List.ne_nil_of_mem hmem
        rw [hreload, if_neg hsome, hrefusals]
      · rw [← hrefusals]
        exact not_refused_iff hlimit filters key

end NodeSieve.NodeFilters
