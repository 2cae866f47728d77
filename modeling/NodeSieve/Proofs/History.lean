import NodeSieve.Proofs.Members
import NodeSieve.Proofs.Reload

/-!
# The history of a repository's filters

After an activation and any number of reloads, what is in force can be read
off the configurations alone: for each slot the filter of the last definition
that was published to it, how many there were, and the last limit that was not
zero. `Follows` says so of one state; activating establishes it and a reload
carries it on, so it holds along every run.
-/

namespace NodeSieve

/-- The filter that a configuration publishes under a key, if it is in force
and its definition compiles. -/
def FilterConfig.publishes? (config : FilterConfig) (key : FilterKey) :
    Option CompiledFilter :=
  if config.queryResultLimit = 0 then none else (config.compiled key).toOption

/-- The limit of a configuration that is in force. -/
def FilterConfig.limit? (config : FilterConfig) : Option UInt64 :=
  if config.queryResultLimit = 0 then none else some config.queryResultLimit

namespace NodeFilters

theorem filter_eq (filters : NodeFilters) (key : FilterKey) :
    filters.filter key = (filters.slots.get key).current.filter := rfl

/-- The filters after some configurations, one reload after another. -/
def run (filters : NodeFilters) (changes : List FilterConfig) : NodeFilters :=
  changes.foldl (fun filters change => (filters.reload change).2) filters

/-- The filters are what an activation and some reloads have made of them. -/
structure Follows (first : FilterConfig) (changes : List FilterConfig)
    (filters : NodeFilters) : Prop where
  key : ∀ key, (filters.slots.get key).key = key.label
  published : ∀ key, ((first :: changes).filterMap (·.publishes? key)).getLast? =
    some (filters.filter key)
  generation : ∀ key, (filters.slots.get key).generation =
    .ofNat (changes.filterMap (·.publishes? key)).length
  limit : ((first :: changes).filterMap (·.limit?)).getLast? = some filters.queryResultLimit
  fresh : filters.Fresh

theorem activateSlot_eq_ok_iff {config : FilterConfig} {supply : Supply} {key : FilterKey}
    {slot : FilterSlot × Supply} :
    activateSlot config supply key = .ok slot ↔
      ∃ filter, config.compiled key = .ok filter ∧
        slot = (.new key.label ⟨supply.next, filter⟩, ⟨supply.next + 1⟩) := by
  rw [activateSlot, FilterSlot.activate, Supply.compile, FilterConfig.compiled]
  cases CompiledFilter.compile config.parseOptions (config.definition key) with
  | error e =>
      constructor
      · intro h
        cases h
      · intro h
        obtain ⟨filter, hfilter, -⟩ := h
        cases hfilter
  | ok filter =>
      constructor
      · intro h
        exact ⟨filter, rfl, (Except.ok.inj h).symm⟩
      · intro h
        obtain ⟨filter', hfilter, rfl⟩ := h
        rw [Except.ok.inj hfilter]
        rfl

/-- What an activation makes. -/
theorem activate_eq_ok {first : FilterConfig} {start : NodeFilters}
    (h : activate first = .ok start) :
    first.queryResultLimit ≠ 0 ∧ start.queryResultLimit = first.queryResultLimit ∧
      start.supply.next = 5 ∧
      ∀ key, ∃ filter id, first.compiled key = .ok filter ∧ id < 5 ∧
        start.slots.get key = .new key.label ⟨id, filter⟩ := by
  rw [activate] at h
  obtain ⟨⟨⟩, hvalid, h⟩ := bind_eq_ok_iff.mp h
  obtain ⟨_, hslot, h⟩ := bind_eq_ok_iff.mp h
  obtain ⟨page, hpage, rfl⟩ := activateSlot_eq_ok_iff.mp hslot
  obtain ⟨_, hslot, h⟩ := bind_eq_ok_iff.mp h
  obtain ⟨default, hdefault, rfl⟩ := activateSlot_eq_ok_iff.mp hslot
  obtain ⟨_, hslot, h⟩ := bind_eq_ok_iff.mp h
  obtain ⟨tree, htree, rfl⟩ := activateSlot_eq_ok_iff.mp hslot
  obtain ⟨_, hslot, h⟩ := bind_eq_ok_iff.mp h
  obtain ⟨referenceable, hreferenceable, rfl⟩ := activateSlot_eq_ok_iff.mp hslot
  obtain ⟨_, hslot, h⟩ := bind_eq_ok_iff.mp h
  obtain ⟨orderable, horderable, rfl⟩ := activateSlot_eq_ok_iff.mp hslot
  obtain rfl := Except.ok.inj h
  refine ⟨?_, rfl, rfl, ?_⟩
  · intro hzero
    rw [FilterConfig.validate, if_pos hzero] at hvalid
    cases hvalid
  · intro key
    cases key with
    | page => exact ⟨page, 0, hpage, by decide, rfl⟩
    | default => exact ⟨default, 1, hdefault, by decide, rfl⟩
    | treeIntermediate => exact ⟨tree, 2, htree, by decide, rfl⟩
    | referenceable => exact ⟨referenceable, 3, hreferenceable, by decide, rfl⟩
    | orderable => exact ⟨orderable, 4, horderable, by decide, rfl⟩

theorem publishes?_of_ok {config : FilterConfig} {key : FilterKey} {filter : CompiledFilter}
    (hlimit : config.queryResultLimit ≠ 0) (h : config.compiled key = .ok filter) :
    config.publishes? key = some filter := by
  rw [FilterConfig.publishes?, if_neg hlimit, h]
  rfl

theorem publishes?_of_error {config : FilterConfig} {key : FilterKey} {e : FilterError}
    (h : config.compiled key = .error e) : config.publishes? key = none := by
  rw [FilterConfig.publishes?, h]
  exact ite_self none

theorem follows_activate {first : FilterConfig} {start : NodeFilters}
    (h : activate first = .ok start) : Follows first [] start := by
  obtain ⟨hfirst, hlimit, hsupply, hslots⟩ := activate_eq_ok h
  constructor
  case limit => simp [FilterConfig.limit?, hfirst, hlimit]
  all_goals
    intro key
    obtain ⟨filter, id, hcompiled, hid, hslot⟩ := hslots key
  case key => rw [hslot, FilterSlot.new]
  case published =>
      rw [List.filterMap_cons, publishes?_of_ok hfirst hcompiled, filter_eq, hslot]
      rfl
  case generation => rw [hslot]; rfl
  case fresh =>
      rw [NodeFilters.published, hslot, hsupply]
      exact hid

/-- What a reload does to a slot: nothing, or it publishes a filter. -/
theorem reload_slot_cases (filters : NodeFilters) (change : FilterConfig) (key : FilterKey) :
    (change.publishes? key = none ∧
        (filters.reload change).2.slots.get key = filters.slots.get key) ∨
      ∃ filter id, change.publishes? key = some filter ∧ filters.supply.next ≤ id ∧
        (filters.reload change).2.slots.get key =
          (filters.slots.get key).publish ⟨id, filter⟩ := by
  by_cases hlimit : change.queryResultLimit = 0
  · rw [reload_of_limit_zero filters hlimit]
    exact .inl ⟨if_pos hlimit, rfl⟩
  · have hslot := reload_slot hlimit filters key
    generalize hresult : change.compiled key = result at hslot
    generalize (filters.reload change).2.slots.get key = slot at hslot ⊢
    cases hslot with
    | refused => exact .inl ⟨publishes?_of_error hresult, rfl⟩
    | published hid => exact .inr ⟨_, _, publishes?_of_ok hlimit hresult, hid, rfl⟩

theorem reload_limit (filters : NodeFilters) (change : FilterConfig) :
    (filters.reload change).2.queryResultLimit =
      change.limit?.getD filters.queryResultLimit := by
  rw [FilterConfig.limit?]
  split
  · next hlimit => rw [reload_of_limit_zero filters hlimit, Option.getD_none]
  · next hlimit => rw [reload_eq hlimit, Option.getD_some]

/-- A reload carries the history on. -/
theorem Follows.reload {first : FilterConfig} {changes : List FilterConfig}
    {filters : NodeFilters} (h : Follows first changes filters) (change : FilterConfig) :
    Follows first (changes ++ [change]) (filters.reload change).2 := by
  constructor
  case limit =>
      rw [← List.cons_append, filterMap_concat, getLast?_append_toList h.limit, reload_limit]
  case fresh => exact reload_fresh h.fresh
  all_goals
    intro key
    have hcases := reload_slot_cases filters change key
  case key =>
      rcases hcases with ⟨-, hslot⟩ | ⟨filter, id, -, -, hslot⟩ <;> rw [hslot]
      · exact h.key key
      · exact h.key key
  case published =>
      rw [← List.cons_append, filterMap_concat, getLast?_append_toList (h.published key)]
      rcases hcases with ⟨hnone, hslot⟩ | ⟨filter, id, hsome, -, hslot⟩
      · rw [hnone, filter_eq, filter_eq, hslot]
        rfl
      · rw [hsome, filter_eq, filter_eq, hslot]
        rfl
  case generation =>
      rw [filterMap_concat, List.length_append]
      rcases hcases with ⟨hnone, hslot⟩ | ⟨filter, id, hsome, -, hslot⟩
      · rw [hnone, hslot, h.generation key]
        rfl
      · rw [hsome, hslot, FilterSlot.publish, h.generation key, UInt64.ofNat_add]
        rfl

theorem Follows.run {first : FilterConfig} {changes : List FilterConfig}
    {filters : NodeFilters} (h : Follows first changes filters) (more : List FilterConfig) :
    Follows first (changes ++ more) (filters.run more) := by
  induction more generalizing changes filters with
  | nil => rwa [List.append_nil]
  | cons change more ih =>
      have hmore := ih (h.reload change)
      rwa [List.append_assoc] at hmore

/-! ## What callers see -/

section

variable {first : FilterConfig} {changes : List FilterConfig} {filters : NodeFilters}

end

end NodeFilters

end NodeSieve
