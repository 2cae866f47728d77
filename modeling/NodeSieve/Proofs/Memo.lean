import Mathlib.Data.Set.Card
import NodeSieve.Store.Cache

/-!
# What a cache remembers

A cache answers from its entries, but its callers know only what they have
asked and what they were told. That is enough to tell what it keeps: for each
definition, the filter of the latest answer that gave one, unless the cache
has been told to forget it since (`kept`). `Faithful` equates the entries with
that reading of the history, and every request carries it on.

Two facts make the rest harmless. What is kept for a definition is what the
definition compiles to, so a definition that is refused can not be kept, and
a failure has nothing to protect. And every number that is in use was drawn
from the supply, so the next one belongs to nobody.
-/

namespace NodeSieve

inductive CacheRequest where
  | get (source : String)
  | reload (source : String)
  | invalidate (source : String)
  | clear
deriving DecidableEq, Repr

/-- A request together with its answer. -/
inductive CacheEvent where
  | got (source : String) (answer : Except FilterError Shared)
  | reloaded (source : String) (answer : Except FilterError Shared)
  | invalidated (source : String) (answer : Option Shared)
  | cleared
deriving Repr

namespace CacheEvent

/-- What an event decides about the filter that is kept for a definition, if
it has a say in it: a filter, or that there is none. -/
def decides? (source : String) : CacheEvent → Option (Option Shared)
  | .got asked answer | .reloaded asked answer =>
    if asked = source then answer.toOption.map some else none
  | .invalidated asked _ => if asked = source then some none else none
  | .cleared => some none

/-- The filter that an event hands out. -/
def handsOut? : CacheEvent → Option Shared
  | .got _ answer | .reloaded _ answer => answer.toOption
  | .invalidated _ answer => answer
  | .cleared => none

end CacheEvent

/-- What a cache has been asked since it was made, the latest first. -/
abbrev CacheHistory := List CacheEvent

namespace CacheHistory

/-- The filter of the latest `get` or `reload` of a definition that gave one,
unless it has been invalidated or everything has been cleared since. -/
def kept (history : CacheHistory) (source : String) : Option Shared :=
  (history.findSome? (·.decides? source)).join

/-- The very filter has not been handed out. -/
def Unseen (history : CacheHistory) (filter : Shared) : Prop :=
  ∀ event ∈ history, ∀ seen ∈ event.handsOut?, seen.id ≠ filter.id

theorem kept_cons (event : CacheEvent) (history : CacheHistory) (source : String) :
    kept (event :: history) source = (event.decides? source).getD (history.kept source) := by
  rw [kept, List.findSome?_cons]
  cases event.decides? source <;> rfl

theorem handsOut?_of_decides? {event : CacheEvent} {source : String} {filter : Shared}
    (h : event.decides? source = some (some filter)) : event.handsOut? = some filter := by
  cases event with
  | got asked answer | reloaded asked answer =>
      rw [CacheEvent.decides?] at h
      split at h
      · obtain ⟨_, hanswer, heq⟩ := Option.map_eq_some_iff.mp h
        rw [CacheEvent.handsOut?, hanswer, heq]
      · cases h
  | invalidated asked answer =>
      rw [CacheEvent.decides?] at h
      split at h <;> cases h
  | cleared => cases h

theorem handed_out_of_kept {history : CacheHistory} {source : String} {filter : Shared}
    (h : history.kept source = some filter) : ∃ event ∈ history, filter ∈ event.handsOut? := by
  rw [kept, Option.join_eq_some_iff] at h
  obtain ⟨event, hevent, hdecides⟩ := List.exists_of_findSome?_eq_some h
  exact ⟨event, hevent, handsOut?_of_decides? hdecides⟩

end CacheHistory

structure CacheSession where
  history : CacheHistory
  cache : FilterCache
deriving Repr

namespace CacheSession

def start (options : ParseOptions) : CacheSession :=
  ⟨[], .new options⟩

def serve (s : CacheSession) : CacheRequest → CacheSession
  | .get source => ⟨.got source (s.cache.get source).1 :: s.history, (s.cache.get source).2⟩
  | .reload source =>
    ⟨.reloaded source (s.cache.reload source).1 :: s.history, (s.cache.reload source).2⟩
  | .invalidate source =>
    ⟨.invalidated source (s.cache.invalidate source).1 :: s.history,
      (s.cache.invalidate source).2⟩
  | .clear => ⟨.cleared :: s.history, s.cache.clear⟩

def run (options : ParseOptions) (requests : List CacheRequest) : CacheSession :=
  requests.foldl serve (start options)

/-- The entries of a cache are what its history says, and what is kept for a
definition is its filter. -/
structure Faithful (options : ParseOptions) (s : CacheSession) : Prop where
  sameOptions : s.cache.options = options
  kept : ∀ source, s.cache.lookup? source = s.history.kept source
  compiled : ∀ source filter, s.history.kept source = some filter →
    CompiledFilter.compile options source = .ok filter.filter
  distinct : ∀ source other filter filter', s.history.kept source = some filter →
    s.history.kept other = some filter' → filter.id = filter'.id → source = other
  keys : (s.cache.entries.map Prod.fst).Nodup
  drawn : ∀ event ∈ s.history, ∀ filter ∈ event.handsOut?, filter.id < s.cache.supply.next

variable {options : ParseOptions} {s : CacheSession}

theorem faithful_start (options : ParseOptions) : Faithful options (start options) where
  sameOptions := rfl
  kept _ := rfl
  compiled _ _ h := by cases h
  distinct _ _ _ _ h := by cases h
  keys := List.nodup_nil
  drawn := List.forall_mem_nil _

theorem Faithful.kept_id_lt (h : Faithful options s) {source : String} {filter : Shared}
    (hkept : s.history.kept source = some filter) : filter.id < s.cache.supply.next := by
  obtain ⟨event, hevent, hout⟩ := CacheHistory.handed_out_of_kept hkept
  exact h.drawn event hevent filter hout

theorem Faithful.unseen_next (h : Faithful options s) (filter : CompiledFilter) :
    s.history.Unseen ⟨s.cache.supply.next, filter⟩ :=
  fun event hevent seen hseen => Nat.ne_of_lt (h.drawn event hevent seen hseen)

/-- A definition that is refused is not kept. -/
theorem Faithful.kept_of_error (h : Faithful options s) {source : String} {e : FilterError}
    (he : CompiledFilter.compile options source = .error e) : s.history.kept source = none := by
  cases hkept : s.history.kept source with
  | none => rfl
  | some filter =>
      rw [h.compiled source filter hkept] at he
      cases he

theorem lookup_of_sublist {entries all : List (String × Shared)} (hsub : entries.Sublist all)
    (hkeys : (all.map Prod.fst).Nodup) {source : String} {filter : Shared}
    (h : entries.lookup source = some filter) : all.lookup source = some filter := by
  rw [FilterCache.lookup_eq_some_iff_mem (hkeys.sublist (hsub.map _))] at h
  exact (FilterCache.lookup_eq_some_iff_mem hkeys).mpr (hsub.subset h)

/-- An event that adds nothing to the entries: some of them go, or all stay. -/
theorem Faithful.narrow (h : Faithful options s) {event : CacheEvent}
    {entries : List (String × Shared)} (hsub : entries.Sublist s.cache.entries)
    (hdecides : ∀ source, entries.lookup source =
      (event.decides? source).getD (s.history.kept source))
    (hout : ∀ filter ∈ event.handsOut?, filter.id < s.cache.supply.next) :
    Faithful options ⟨event :: s.history, { s.cache with entries }⟩ := by
  have hkept : ∀ source filter, (CacheHistory.kept (event :: s.history) source) = some filter →
      s.history.kept source = some filter := by
    intro source filter hafter
    rw [CacheHistory.kept_cons, ← hdecides] at hafter
    rw [← h.kept]
    exact lookup_of_sublist hsub h.keys hafter
  constructor
  case sameOptions => exact h.sameOptions
  case kept =>
      intro source
      rw [CacheHistory.kept_cons]
      exact hdecides source
  case compiled => exact fun source filter hafter => h.compiled source filter (hkept _ _ hafter)
  case distinct =>
      exact fun source other filter filter' hafter hafter' =>
        h.distinct source other filter filter' (hkept _ _ hafter) (hkept _ _ hafter')
  case keys => exact h.keys.sublist (hsub.map _)
  case drawn => exact List.forall_mem_cons.mpr ⟨hout, h.drawn⟩

/-- An event that puts a filter with the next number into the entries. -/
theorem Faithful.keep (h : Faithful options s) {event : CacheEvent} {source : String}
    {filter : CompiledFilter} (hcompile : CompiledFilter.compile options source = .ok filter)
    (hdecides : ∀ other, event.decides? other =
      if source = other then some (some ⟨s.cache.supply.next, filter⟩) else none)
    (hout : event.handsOut? = some ⟨s.cache.supply.next, filter⟩) :
    Faithful options ⟨event :: s.history, s.cache.keep source filter⟩ := by
  have hself : CacheHistory.kept (event :: s.history) source =
      some ⟨s.cache.supply.next, filter⟩ := by
    rw [CacheHistory.kept_cons, hdecides, if_pos rfl]
    rfl
  have hother : ∀ other, other ≠ source →
      CacheHistory.kept (event :: s.history) other = s.history.kept other := by
    intro other hne
    rw [CacheHistory.kept_cons, hdecides, if_neg hne.symm]
    rfl
  constructor
  case sameOptions => exact h.sameOptions
  case kept =>
      intro other
      by_cases hne : other = source
      · subst hne
        rw [hself, FilterCache.lookup?, FilterCache.keep, List.lookup_cons_self]
      · rw [hother other hne, ← h.kept, FilterCache.lookup?, FilterCache.keep, List.lookup_cons,
          beq_eq_false_iff_ne.mpr hne]
        exact FilterCache.lookup_without_of_ne hne _
  case compiled =>
      intro other kept hkept
      by_cases hne : other = source
      · subst hne
        rw [hself] at hkept
        rw [← Option.some.inj hkept]
        exact hcompile
      · rw [hother other hne] at hkept
        exact h.compiled other kept hkept
  case distinct =>
      intro first second kept kept' hkept hkept' hid
      -- The new number is above all that are kept, so only the new entry has
      -- it.
      by_cases hfirst : first = source <;> by_cases hsecond : second = source
      · rw [hfirst, hsecond]
      · subst hfirst
        rw [hself] at hkept
        rw [hother second hsecond] at hkept'
        rw [← Option.some.inj hkept] at hid
        exact absurd hid.symm (Nat.ne_of_lt (h.kept_id_lt hkept'))
      · subst hsecond
        rw [hself] at hkept'
        rw [hother first hfirst] at hkept
        rw [← Option.some.inj hkept'] at hid
        exact absurd hid (Nat.ne_of_lt (h.kept_id_lt hkept))
      · rw [hother first hfirst] at hkept
        rw [hother second hsecond] at hkept'
        exact h.distinct first second kept kept' hkept hkept' hid
  case keys =>
      have hwithout : ((FilterCache.without source s.cache.entries).map Prod.fst).Nodup :=
        h.keys.sublist (List.filter_sublist.map _)
      refine List.nodup_cons.mpr ⟨?_, hwithout⟩
      intro hmem
      obtain ⟨entry, hentry, hkey⟩ := List.mem_map.mp hmem
      exact absurd hkey (bne_iff_ne.mp (List.mem_filter.mp hentry).2)
  case drawn =>
      refine List.forall_mem_cons.mpr ⟨?_, ?_⟩
      · intro seen hseen
        rw [hout] at hseen
        rw [← Option.some.inj hseen]
        exact Nat.lt_succ_self _
      · exact fun event hevent seen hseen => Nat.lt_succ_of_lt (h.drawn event hevent seen hseen)

/-! ## Requests -/

theorem Faithful.get_of_kept (h : Faithful options s) {source : String} {filter : Shared}
    (hkept : s.history.kept source = some filter) : s.cache.get source = (.ok filter, s.cache) := by
  rw [← h.kept] at hkept
  exact FilterCache.get_of_some hkept

theorem Faithful.get_of_not_kept (h : Faithful options s) {source : String}
    (hkept : s.history.kept source = none) : s.cache.get source = s.cache.reload source := by
  rw [← h.kept] at hkept
  exact FilterCache.get_of_none hkept

theorem Faithful.reload_of_error (h : Faithful options s) {source : String} {e : FilterError}
    (he : CompiledFilter.compile options source = .error e) :
    s.cache.reload source = (.error e, s.cache) := by
  rw [← h.sameOptions] at he
  exact FilterCache.reload_of_error he

theorem Faithful.reload_of_ok (h : Faithful options s) {source : String}
    {filter : CompiledFilter} (hfilter : CompiledFilter.compile options source = .ok filter) :
    s.cache.reload source =
      (.ok ⟨s.cache.supply.next, filter⟩, s.cache.keep source filter) := by
  rw [← h.sameOptions] at hfilter
  exact FilterCache.reload_of_ok hfilter

/-- A refused definition leaves the cache alone, whichever way it is asked
for. -/
theorem Faithful.get_of_error (h : Faithful options s) {source : String} {e : FilterError}
    (he : CompiledFilter.compile options source = .error e) :
    s.cache.get source = (.error e, s.cache) := by
  rw [h.get_of_not_kept (h.kept_of_error he), h.reload_of_error he]

/-- An event that decides nothing, or what is decided already. -/
theorem Faithful.unchanged (h : Faithful options s) {event : CacheEvent}
    (hdecides : ∀ source, (event.decides? source).getD (s.history.kept source) =
      s.history.kept source)
    (hout : ∀ filter ∈ event.handsOut?, filter.id < s.cache.supply.next) :
    Faithful options ⟨event :: s.history, s.cache⟩ :=
  h.narrow (List.Sublist.refl _) (fun source => (h.kept source).trans (hdecides source).symm) hout

/-- Every request carries the history on. -/
theorem Faithful.serve (h : Faithful options s) (request : CacheRequest) :
    Faithful options (s.serve request) := by
  cases request with
  | get source =>
      rw [CacheSession.serve]
      cases hkept : s.history.kept source with
      | some filter =>
          rw [h.get_of_kept hkept]
          refine h.unchanged (fun other => ?_) ?_
          · rw [CacheEvent.decides?]
            split
            · next heq => exact heq ▸ hkept.symm
            · rfl
          · rintro _ ⟨⟩
            exact h.kept_id_lt hkept
      | none =>
          rw [h.get_of_not_kept hkept]
          cases hcompile : CompiledFilter.compile options source with
          | error e =>
              rw [h.reload_of_error hcompile]
              exact h.unchanged (fun other => by rw [CacheEvent.decides?]; split <;> rfl) nofun
          | ok filter =>
              rw [h.reload_of_ok hcompile]
              exact h.keep hcompile (fun other => rfl) rfl
  | reload source =>
      rw [CacheSession.serve]
      cases hcompile : CompiledFilter.compile options source with
      | error e =>
          rw [h.reload_of_error hcompile]
          exact h.unchanged (fun other => by rw [CacheEvent.decides?]; split <;> rfl) nofun
      | ok filter =>
          rw [h.reload_of_ok hcompile]
          exact h.keep hcompile (fun other => rfl) rfl
  | invalidate source =>
      -- The answer has been handed out before, with the entry that goes.
      refine h.narrow List.filter_sublist (fun other => ?_) ?_
      · refine (FilterCache.lookup_invalidate s.cache source other).trans ?_
        rw [CacheEvent.decides?, h.kept]
        by_cases hother : other = source
        · rw [if_pos hother, if_pos hother.symm]
          rfl
        · rw [if_neg hother, if_neg (Ne.symm hother)]
          rfl
      · intro filter hout
        have hkept : s.cache.lookup? source = some filter := hout
        rw [h.kept] at hkept
        exact h.kept_id_lt hkept
  | clear => exact h.narrow (List.nil_sublist _) (fun other => rfl) nofun

theorem faithful_run (options : ParseOptions) (requests : List CacheRequest) :
    Faithful options (run options requests) := by
  have hrun : ∀ s, Faithful options s → Faithful options (requests.foldl CacheSession.serve s) := by
    induction requests with
    | nil => exact fun _ h => h
    | cons request requests ih => exact fun s h => ih _ (h.serve request)
  exact hrun _ (faithful_start options)

/-! ## Answers -/

theorem Faithful.reload_answer (h : Faithful options s) (source : String) :
    (s.cache.reload source).1.map Shared.filter = CompiledFilter.compile options source := by
  cases hcompile : CompiledFilter.compile options source with
  | error e =>
      rw [h.reload_of_error hcompile]
      rfl
  | ok filter =>
      rw [h.reload_of_ok hcompile]
      rfl

theorem Faithful.get_answer (h : Faithful options s) (source : String) :
    (s.cache.get source).1.map Shared.filter = CompiledFilter.compile options source := by
  cases hkept : s.history.kept source with
  | some filter =>
      rw [h.get_of_kept hkept, h.compiled source filter hkept]
      rfl
  | none =>
      rw [h.get_of_not_kept hkept]
      exact h.reload_answer source

/-- A filter that a reload gives is new, and the next `get` gives the same. -/
theorem Faithful.reload_fresh (h : Faithful options s) {source : String} {filter : Shared}
    (hreload : (s.cache.reload source).1 = .ok filter) :
    s.history.Unseen filter ∧
      (s.cache.reload source).2.get source = (.ok filter, (s.cache.reload source).2) := by
  cases hcompile : CompiledFilter.compile options source with
  | error e =>
      rw [h.reload_of_error hcompile] at hreload
      cases hreload
  | ok compiled =>
      rw [h.reload_of_ok hcompile] at hreload ⊢
      cases hreload
      exact ⟨h.unseen_next compiled, FilterCache.get_of_some List.lookup_cons_self⟩

theorem Faithful.mem_keys_iff (h : Faithful options s) {source : String} :
    source ∈ s.cache.entries.map Prod.fst ↔ s.history.kept source ≠ none := by
  rw [← h.kept, FilterCache.lookup?, ne_eq, List.lookup_eq_none_iff, List.mem_map]
  simp only [bne_iff_ne, ne_eq, not_forall, not_not, exists_prop]
  exact exists_congr fun _ => and_congr_right fun _ => eq_comm

theorem Faithful.size_eq (h : Faithful options s) :
    Set.encard {source | s.history.kept source ≠ none} = s.cache.size := by
  have hkeys : {source | s.history.kept source ≠ none} =
      ((s.cache.entries.map Prod.fst).toFinset : Set String) := by
    ext source
    rw [List.coe_toFinset, Set.mem_ofPred_eq, Set.mem_ofPred_eq, h.mem_keys_iff]
  rw [hkeys, Set.encard_coe_eq_coe_finsetCard, List.toFinset_card_of_nodup h.keys,
    List.length_map, FilterCache.size]

/-- A cache that answers as compiling anew would, so that only which filters
are the very same tells that it remembers. -/
structure Transparent (options : ParseOptions) (s : CacheSession) : Prop where
  get_answer : ∀ source,
    (s.cache.get source).1.map Shared.filter = CompiledFilter.compile options source
  reload_answer : ∀ source,
    (s.cache.reload source).1.map Shared.filter = CompiledFilter.compile options source
  named : ∀ source filter,
    (s.cache.get source).1 = .ok filter ∨ (s.cache.reload source).1 = .ok filter →
      filter.filter.source = source ∧ Filter.parse options source = .ok filter.filter.root
  refused : ∀ source e, CompiledFilter.compile options source = .error e →
    s.cache.get source = (.error e, s.cache) ∧ s.cache.reload source = (.error e, s.cache) ∧
      s.cache.lookup? source = none
  remembered : ∀ source filter, s.history.kept source = some filter →
    s.cache.get source = (.ok filter, s.cache)
  anew : ∀ source, s.history.kept source = none → s.cache.get source = s.cache.reload source
  fresh : ∀ source filter, (s.cache.reload source).1 = .ok filter →
    s.history.Unseen filter ∧
      (s.cache.reload source).2.get source = (.ok filter, (s.cache.reload source).2)
  forgotten : ∀ source, (s.cache.invalidate source).1 = s.history.kept source ∧
    ∀ other, (s.cache.invalidate source).2.lookup? other =
      if other = source then none else s.cache.lookup? other
  apart : ∀ source other filter filter', source ≠ other →
    s.history.kept source = some filter → s.history.kept other = some filter' →
      filter.id ≠ filter'.id
  size : Set.encard {source | s.history.kept source ≠ none} = s.cache.size
  empty : s.cache.isEmpty = true ↔ s.cache.size = 0

/-- Whatever it has been asked, a cache is transparent. A definition that is
refused leaves no trace; one that is kept is answered with the filter of its
latest answer, any other with a filter that nobody has. -/
theorem transparent_run (options : ParseOptions) (requests : List CacheRequest) :
    Transparent options (run options requests) := by
  have h : Faithful options (run options requests) := faithful_run options requests
  constructor
  case get_answer => exact h.get_answer
  case reload_answer => exact h.reload_answer
  case named =>
      intro source filter hanswer
      rw [← CompiledFilter.compile_eq_ok_iff]
      rcases hanswer with hget | hreload
      · rw [← h.get_answer source, hget]
        rfl
      · rw [← h.reload_answer source, hreload]
        rfl
  case refused =>
      intro source e he
      refine ⟨h.get_of_error he, h.reload_of_error he, ?_⟩
      rw [h.kept, h.kept_of_error he]
  case remembered => exact fun _ _ => h.get_of_kept
  case anew => exact fun _ => h.get_of_not_kept
  case fresh => exact fun _ _ => h.reload_fresh
  case forgotten => exact fun source => ⟨h.kept source, FilterCache.lookup_invalidate _ source⟩
  case apart =>
      intro source other filter filter' hne hkept hkept' hid
      exact hne (h.distinct source other filter filter' hkept hkept' hid)
  case size => exact h.size_eq
  case empty =>
      rw [FilterCache.isEmpty, FilterCache.size, List.isEmpty_iff, List.length_eq_zero_iff]

/-- Two spellings of one filter are kept apart. -/
example : (run .default [.get "Folder()", .get " Folder()"]).cache.size = 2 := by
  decide +kernel

end CacheSession

end NodeSieve
