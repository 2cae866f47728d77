import NodeSieve.Store.NodeFilters

/-!
# One reload

A reload goes through the slots one by one, each with the definition that
stands at the same position in the configuration. What it does to a slot
depends on that definition alone: it is refused and the slot stays as it is,
or its filter is published under a number that nobody has had. So the loop is
described by what it does to each slot (`reload_slot`) and by the list of
refusals it returns (`reload_eq`); the order in which the slots are visited
shows only in that list.
-/

namespace NodeSieve

/-- What the definition under a key compiles to. -/
def FilterConfig.compiled (config : FilterConfig) (key : FilterKey) :
    Except FilterError CompiledFilter :=
  CompiledFilter.compile config.parseOptions (config.definition key)

/-- The error that a definition is refused with, if it is. -/
def refusal? (label : String) : Except FilterError CompiledFilter → Option SieveError
  | .error e => some (.filterRejected label e)
  | .ok _ => none

/-- The errors that a configuration's definitions are refused with, in the order
of the slots. -/
def FilterConfig.refusals (config : FilterConfig) : List SieveError :=
  NodeFilters.slotOrder.filterMap fun key => refusal? key.label (config.compiled key)

/-- What becomes of a slot for which a definition has been compiled, where the
numbers from `unused` on belong to nobody. -/
inductive FilterSlot.Reloaded (unused : Nat) (slot : FilterSlot) :
    Except FilterError CompiledFilter → FilterSlot → Prop
  | refused {e : FilterError} : Reloaded unused slot (.error e) slot
  | published {filter : CompiledFilter} {id : Nat} (hid : unused ≤ id) :
      Reloaded unused slot (.ok filter) (slot.publish ⟨id, filter⟩)

theorem FilterSlot.Reloaded.mono {unused unused' : Nat} {slot slot' : FilterSlot}
    {result : Except FilterError CompiledFilter} (h : slot.Reloaded unused' result slot')
    (hle : unused ≤ unused') : slot.Reloaded unused result slot' := by
  cases h with
  | refused => exact .refused
  | published hid => exact .published (Nat.le_trans hle hid)

namespace NodeFilters

/-- All numbers that are in use have been drawn from the supply. -/
def Fresh (filters : NodeFilters) : Prop :=
  ∀ key, (filters.published key).id < filters.supply.next

/-- A filter put into a slot under the next number. -/
def publishAt (filters : NodeFilters) (key : FilterKey) (filter : CompiledFilter) :
    NodeFilters :=
  { filters with
    slots := filters.slots.set key
      ((filters.slots.get key).publish ⟨filters.supply.next, filter⟩)
    supply := ⟨filters.supply.next + 1⟩ }

section

variable {options : ParseOptions} {filters : NodeFilters}

theorem reloadSlot_of_error {key : FilterKey} {entry : String × String} {e : FilterError}
    (h : CompiledFilter.compile options entry.2 = .error e) :
    reloadSlot options filters key entry = (some (.filterRejected entry.1 e), filters) := by
  rw [reloadSlot, FilterSlot.reloadWith_of_error h]
  simp only [PerKey.set_get]

theorem reloadSlot_of_ok {key : FilterKey} {entry : String × String} {filter : CompiledFilter}
    (h : CompiledFilter.compile options entry.2 = .ok filter) :
    reloadSlot options filters key entry = (none, filters.publishAt key filter) := by
  rw [reloadSlot, FilterSlot.reloadWith_of_ok h]
  rfl

theorem publishAt_fresh (h : filters.Fresh) (key : FilterKey) (filter : CompiledFilter) :
    (filters.publishAt key filter).Fresh := by
  intro other
  show ((filters.publishAt key filter).slots.get other).current.id < filters.supply.next + 1
  by_cases heq : other = key
  · subst heq
    rw [publishAt, PerKey.get_set_self]
    exact Nat.lt_succ_self _
  · rw [publishAt, PerKey.get_set_of_ne _ _ heq]
    exact Nat.lt_succ_of_lt (h other)

/-! ## The loop -/

theorem reloadSlots_errors {pairs : List (FilterKey × String × String)} :
    (reloadSlots options filters pairs).1 =
      pairs.filterMap fun pair =>
        refusal? pair.2.1 (CompiledFilter.compile options pair.2.2) := by
  induction pairs generalizing filters with
  | nil => rfl
  | cons pair pairs ih =>
      obtain ⟨key, entry⟩ := pair
      rw [reloadSlots, List.filterMap_cons]
      cases h : CompiledFilter.compile options entry.2 with
      | error e =>
          rw [reloadSlot_of_error h]
          exact congrArg (SieveError.filterRejected entry.1 e :: ·) ih
      | ok filter =>
          rw [reloadSlot_of_ok h]
          exact ih

/-- What one round of the loop keeps, the loop keeps. -/
theorem reloadSlots_keeps (good : NodeFilters → Prop)
    {pairs : List (FilterKey × String × String)} (hstart : good filters)
    (hround : ∀ pair ∈ pairs, ∀ {filters filter}, good filters →
      CompiledFilter.compile options pair.2.2 = .ok filter →
        good (filters.publishAt pair.1 filter)) :
    good (reloadSlots options filters pairs).2 := by
  induction pairs generalizing filters with
  | nil => exact hstart
  | cons pair pairs ih =>
      obtain ⟨key, entry⟩ := pair
      obtain ⟨hfirst, hround⟩ := List.forall_mem_cons.mp hround
      rw [reloadSlots]
      cases h : CompiledFilter.compile options entry.2 with
      | error e =>
          rw [reloadSlot_of_error h]
          exact ih hstart hround
      | ok filter =>
          rw [reloadSlot_of_ok h]
          exact ih (hfirst hstart h) hround

theorem reloadSlots_fresh {pairs : List (FilterKey × String × String)} (h : filters.Fresh) :
    (reloadSlots options filters pairs).2.Fresh :=
  reloadSlots_keeps Fresh h fun _ _ _ _ h _ => publishAt_fresh h _ _

/-- Slots without a definition stay as they are. -/
theorem reloadSlots_get_of_not_mem {pairs : List (FilterKey × String × String)}
    {key : FilterKey} (h : key ∉ pairs.map Prod.fst) :
    (reloadSlots options filters pairs).2.slots.get key = filters.slots.get key := by
  refine reloadSlots_keeps (fun after => after.slots.get key = filters.slots.get key) rfl ?_
  intro pair hpair after filter hafter _
  have hne : key ≠ pair.1 := by
    intro h
    subst h
    exact h (List.mem_map_of_mem hpair)
  rw [publishAt, PerKey.get_set_of_ne _ _ hne]
  exact hafter

/-- A slot with one definition is reloaded from it, whatever else is
reloaded. -/
theorem reloadSlots_get {pairs : List (FilterKey × String × String)}
    (hdistinct : (pairs.map Prod.fst).Nodup) {key : FilterKey} {entry : String × String}
    (hmem : (key, entry) ∈ pairs) :
    (filters.slots.get key).Reloaded filters.supply.next
      (CompiledFilter.compile options entry.2)
      ((reloadSlots options filters pairs).2.slots.get key) := by
  induction pairs generalizing filters with
  | nil => cases hmem
  | cons pair pairs ih =>
      obtain ⟨first, firstEntry⟩ := pair
      rw [List.map_cons, List.nodup_cons] at hdistinct
      rw [reloadSlots]
      rcases List.mem_cons.mp hmem with heq | hrest
      · obtain ⟨rfl, rfl⟩ := Prod.mk.inj heq
        cases h : CompiledFilter.compile options entry.2 with
        | error e =>
            rw [reloadSlot_of_error h]
            simp only [reloadSlots_get_of_not_mem hdistinct.1]
            exact .refused
        | ok filter =>
            rw [reloadSlot_of_ok h]
            simp only [reloadSlots_get_of_not_mem hdistinct.1]
            rw [publishAt, PerKey.get_set_self]
            exact .published (Nat.le_refl _)
      · have hkey : key ∈ pairs.map Prod.fst := List.mem_map.mpr ⟨(key, entry), hrest, rfl⟩
        have hne : key ≠ first := by
          intro h
          subst h
          exact hdistinct.1 hkey
        cases h : CompiledFilter.compile options firstEntry.2 with
        | error e =>
            rw [reloadSlot_of_error h]
            exact ih hdistinct.2 hrest
        | ok filter =>
            have hslot : (filters.publishAt first filter).slots.get key =
                filters.slots.get key := PerKey.get_set_of_ne _ _ hne
            have hsupply : filters.supply.next ≤ (filters.publishAt first filter).supply.next :=
              Nat.le_succ _
            rw [reloadSlot_of_ok h, ← hslot]
            exact (ih hdistinct.2 hrest).mono hsupply

end

/-! ## The whole reload -/

theorem mem_slotOrder (key : FilterKey) : key ∈ slotOrder := by
  cases key <;> decide

/-- Each slot is paired with the definition under its own key. -/
theorem zip_filters (config : FilterConfig) :
    slotOrder.zip config.filters =
      slotOrder.map fun key => (key, key.label, config.definition key) := rfl

theorem reload_of_limit_zero (filters : NodeFilters) {config : FilterConfig}
    (h : config.queryResultLimit = 0) :
    filters.reload config = (.error [FilterConfig.limitError], filters) := by
  rw [reload, FilterConfig.validate, if_pos h]

section

variable {config : FilterConfig}

theorem reload_eq (hlimit : config.queryResultLimit ≠ 0) (filters : NodeFilters) :
    filters.reload config =
      (if config.refusals = [] then .ok () else .error config.refusals,
        { (reloadSlots config.parseOptions filters (slotOrder.zip config.filters)).2 with
          queryResultLimit := config.queryResultLimit }) := by
  have herrors : (reloadSlots config.parseOptions filters (slotOrder.zip config.filters)).1 =
      config.refusals := by
    rw [reloadSlots_errors, zip_filters, List.filterMap_map]
    rfl
  rw [reload, FilterConfig.validate, if_neg hlimit]
  simp only [herrors, List.isEmpty_iff]

theorem reload_slot (hlimit : config.queryResultLimit ≠ 0) (filters : NodeFilters)
    (key : FilterKey) :
    (filters.slots.get key).Reloaded filters.supply.next (config.compiled key)
      ((filters.reload config).2.slots.get key) := by
  have hkeys : (slotOrder.zip config.filters).map Prod.fst = slotOrder := rfl
  have hdistinct : ((slotOrder.zip config.filters).map Prod.fst).Nodup := by
    rw [hkeys]
    decide
  have hmem : (key, key.label, config.definition key) ∈ slotOrder.zip config.filters := by
    rw [zip_filters]
    exact List.mem_map_of_mem (mem_slotOrder key)
  rw [reload_eq hlimit]
  exact reloadSlots_get hdistinct hmem

theorem reload_fresh {filters : NodeFilters} (h : filters.Fresh) :
    (filters.reload config).2.Fresh := by
  by_cases hlimit : config.queryResultLimit = 0
  · rwa [reload_of_limit_zero filters hlimit]
  · rw [reload_eq hlimit]
    exact reloadSlots_fresh h

end

end NodeFilters

end NodeSieve
