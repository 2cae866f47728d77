import NodeSieve.Store.Shared

/-!
# Caches

A cache keeps the filters of the definitions it has been asked for. The text of
a definition is its key, so two spellings of one filter are two entries. A
definition that is refused is not kept.
-/

namespace NodeSieve

structure FilterCache where
  options : ParseOptions
  entries : List (String × Shared)
  supply : Supply
deriving Repr

namespace FilterCache

def new (options : ParseOptions) : FilterCache :=
  ⟨options, [], .start⟩

def lookup? (cache : FilterCache) (source : String) : Option Shared :=
  cache.entries.lookup source

/-- The entries without the one for a definition. -/
def without (source : String) (entries : List (String × Shared)) : List (String × Shared) :=
  entries.filter fun entry => entry.1 != source

/-- Compiles a definition anew and keeps its filter in place of an older one. -/
def reload (cache : FilterCache) (source : String) : Except FilterError Shared × FilterCache :=
  match cache.supply.compile cache.options source with
  | (.error e, supply) => (.error e, { cache with supply })
  | (.ok filter, supply) =>
    (.ok filter, { cache with entries := (source, filter) :: without source cache.entries, supply })

/-- The filter that is kept for a definition, or else a new one. -/
def get (cache : FilterCache) (source : String) : Except FilterError Shared × FilterCache :=
  match cache.lookup? source with
  | some filter => (.ok filter, cache)
  | none => cache.reload source

/-- Forgets a definition; the answer is the filter that was kept for it. -/
def invalidate (cache : FilterCache) (source : String) : Option Shared × FilterCache :=
  (cache.lookup? source, { cache with entries := without source cache.entries })

def clear (cache : FilterCache) : FilterCache :=
  { cache with entries := [] }

def size (cache : FilterCache) : Nat :=
  cache.entries.length

def isEmpty (cache : FilterCache) : Bool :=
  cache.entries.isEmpty

/-- Where no definition has two entries, each entry is found. -/
theorem lookup_eq_some_iff_mem {entries : List (String × Shared)}
    (hkeys : (entries.map Prod.fst).Nodup) {source : String} {filter : Shared} :
    entries.lookup source = some filter ↔ (source, filter) ∈ entries := by
  induction entries with
  | nil => simp
  | cons entry entries ih =>
      obtain ⟨key, first⟩ := entry
      rw [List.map_cons, List.nodup_cons] at hkeys
      rw [List.lookup_cons, List.mem_cons, Prod.mk.injEq, ← ih hkeys.2]
      by_cases hkey : source = key
      · subst hkey
        have hnone : entries.lookup source = none := by
          rw [List.lookup_eq_none_iff]
          intro entry hentry
          rw [bne_iff_ne]
          exact fun heq => hkeys.1 (List.mem_map.mpr ⟨entry, hentry, heq.symm⟩)
        simp [hnone, eq_comm]
      · rw [beq_eq_false_iff_ne.mpr hkey]
        simp [hkey]

@[simp] theorem lookup_without_self (source : String) (entries : List (String × Shared)) :
    (without source entries).lookup source = none := by
  rw [List.lookup_eq_none_iff]
  intro entry hentry
  rw [bne_comm]
  exact (List.mem_filter.mp hentry).2

theorem lookup_without_of_ne {source other : String} (h : other ≠ source)
    (entries : List (String × Shared)) :
    (without source entries).lookup other = entries.lookup other := by
  induction entries with
  | nil => rfl
  | cons entry entries ih =>
      obtain ⟨key, filter⟩ := entry
      rw [without, List.filter_cons]
      by_cases hkey : key = source
      · subst hkey
        rw [if_neg (by simp), List.lookup_cons, beq_eq_false_iff_ne.mpr h]
        exact ih
      · rw [if_pos (bne_iff_ne.mpr hkey), List.lookup_cons, List.lookup_cons, ← ih]
        rfl

theorem lookup_invalidate (cache : FilterCache) (source other : String) :
    (cache.invalidate source).2.lookup? other =
      if other = source then none else cache.lookup? other := by
  rw [invalidate, lookup?]
  split
  · next h =>
      subst h
      exact lookup_without_self _ _
  · next h => exact lookup_without_of_ne h _

/-- A filter put under a definition with the next number. -/
def keep (cache : FilterCache) (source : String) (filter : CompiledFilter) : FilterCache :=
  { cache with
    entries := (source, ⟨cache.supply.next, filter⟩) :: without source cache.entries
    supply := ⟨cache.supply.next + 1⟩ }

section

variable {cache : FilterCache} {source : String}

theorem reload_of_error {e : FilterError}
    (h : CompiledFilter.compile cache.options source = .error e) :
    cache.reload source = (.error e, cache) := by
  rw [reload, Supply.compile, h]

theorem reload_of_ok {filter : CompiledFilter}
    (h : CompiledFilter.compile cache.options source = .ok filter) :
    cache.reload source = (.ok ⟨cache.supply.next, filter⟩, cache.keep source filter) := by
  rw [reload, Supply.compile, h]
  rfl

theorem get_of_some {filter : Shared} (h : cache.lookup? source = some filter) :
    cache.get source = (.ok filter, cache) := by
  rw [get, h]

theorem get_of_none (h : cache.lookup? source = none) : cache.get source = cache.reload source := by
  rw [get, h]

end

end FilterCache

end NodeSieve
