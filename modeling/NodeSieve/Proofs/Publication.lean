import Mathlib.Data.List.Basic
import NodeSieve.Store.Slot

/-!
# What a slot publishes

A slot is asked to compile a definition and publish its filter, or is handed a
filter that somebody else has compiled. `Publishes` says what it holds after
any number of such requests: the very filter that was published last, and the
number of publications, which starts over when it no longer fits.

A refusal leaves nothing behind because compiling comes first. What takes an
argument is that a filter compiled by the slot is nobody else's: a filter that
is handed in bears a number of its own, drawn by whoever compiled it, so the
supply has to be past that number from then on (`Supply.past`).
-/

namespace NodeSieve

/-- The supply once a filter is known: its number is no longer unused. -/
def Supply.past (supply : Supply) (filter : Shared) : Supply :=
  ⟨max supply.next (filter.id + 1)⟩

theorem Supply.le_past (supply : Supply) (filter : Shared) :
    supply.next ≤ (supply.past filter).next :=
  Nat.le_max_left _ _

theorem Supply.lt_past (supply : Supply) (filter : Shared) :
    filter.id < (supply.past filter).next :=
  Nat.le_max_right _ _

inductive SlotRequest where
  | reload (source : String)
  | reloadWith (source : String) (options : ParseOptions)
  | publish (filter : Shared)
deriving Repr

/-- The filter that a request gets published, if its definition compiles. -/
def SlotRequest.gives? : SlotRequest → Option CompiledFilter
  | .reload source => (CompiledFilter.compile .default source).toOption
  | .reloadWith source options => (CompiledFilter.compile options source).toOption
  | .publish filter => some filter.filter

/-- A slot in use: what it has published since it was made, the latest first,
and the numbers that are still unused. -/
structure SlotSession where
  publications : List Shared
  slot : FilterSlot
  supply : Supply
deriving Repr

namespace SlotSession

def start (key : String) (initial : Shared) (supply : Supply) : SlotSession :=
  ⟨[], .new key initial, supply.past initial⟩

/-- Notes what a reload has answered. -/
def note (s : SlotSession) :
    Except FilterError Shared × FilterSlot × Supply → SlotSession
  | (answer, slot, supply) => ⟨answer.toOption.toList ++ s.publications, slot, supply⟩

def serve (s : SlotSession) : SlotRequest → SlotSession
  | .reload source => s.note (s.slot.reload s.supply source)
  | .reloadWith source options => s.note (s.slot.reloadWith s.supply source options)
  | .publish filter => ⟨filter :: s.publications, s.slot.publish filter, s.supply.past filter⟩

def run (s : SlotSession) (requests : List SlotRequest) : SlotSession :=
  requests.foldl serve s

/-- A filter that the slot has never held. -/
def Unseen (initial : Shared) (s : SlotSession) (filter : Shared) : Prop :=
  ∀ seen ∈ initial :: s.publications, seen.id ≠ filter.id

/-- What a slot holds is what the requests have published to it. -/
structure Publishes (key : String) (initial : Shared) (requests : List SlotRequest)
    (s : SlotSession) : Prop where
  key : s.slot.key = key
  publications : s.publications.reverse.map Shared.filter = requests.filterMap (·.gives?)
  current : s.slot.current = s.publications.headD initial
  generation : s.slot.generation = .ofNat s.publications.length
  drawn : ∀ seen ∈ initial :: s.publications, seen.id < s.supply.next

end SlotSession

namespace SlotSession

variable {key : String} {initial : Shared} {requests : List SlotRequest} {s : SlotSession}

theorem publishes_start (key : String) (initial : Shared) (supply : Supply) :
    Publishes key initial [] (start key initial supply) where
  key := rfl
  publications := rfl
  current := rfl
  generation := rfl
  drawn := List.forall_mem_singleton.mpr (supply.lt_past initial)

/-- A request that is refused leaves the slot as it is. -/
theorem Publishes.refuse (h : Publishes key initial requests s) {request : SlotRequest}
    (hgives : request.gives? = none) : Publishes key initial (requests ++ [request]) s where
  key := h.key
  publications := by
    rw [List.filterMap_append, ← h.publications, List.filterMap_cons, hgives, List.filterMap_nil,
      List.append_nil]
  current := h.current
  generation := h.generation
  drawn := h.drawn

/-- A filter that is published is the one that is held, and it counts once. -/
theorem Publishes.publish (h : Publishes key initial requests s) {request : SlotRequest}
    {filter : Shared} {supply : Supply} (hgives : request.gives? = some filter.filter)
    (hle : s.supply.next ≤ supply.next) (hlt : filter.id < supply.next) :
    Publishes key initial (requests ++ [request])
      ⟨filter :: s.publications, s.slot.publish filter, supply⟩ where
  key := h.key
  publications := by
    rw [List.filterMap_append, ← h.publications, List.filterMap_cons, hgives, List.filterMap_nil,
      List.reverse_cons, List.map_append]
    rfl
  current := rfl
  generation := by
    rw [FilterSlot.publish, h.generation, List.length_cons, UInt64.ofNat_add]
    rfl
  drawn := by
    obtain ⟨hinitial, hseen⟩ := List.forall_mem_cons.mp h.drawn
    refine List.forall_mem_cons.mpr ⟨Nat.lt_of_lt_of_le hinitial hle, ?_⟩
    exact List.forall_mem_cons.mpr ⟨hlt, fun seen hmem => Nat.lt_of_lt_of_le (hseen seen hmem) hle⟩

/-- A reload is noted as what it does: it refuses, or it publishes a filter
with the next number. -/
theorem Publishes.note_reloadWith (h : Publishes key initial requests s) {request : SlotRequest}
    {source : String} {options : ParseOptions}
    (hgives : request.gives? = (CompiledFilter.compile options source).toOption) :
    Publishes key initial (requests ++ [request])
      (s.note (s.slot.reloadWith s.supply source options)) := by
  cases hcompile : CompiledFilter.compile options source with
  | error e =>
      rw [hcompile] at hgives
      rw [FilterSlot.reloadWith_of_error hcompile]
      exact h.refuse hgives
  | ok filter =>
      rw [hcompile] at hgives
      rw [FilterSlot.reloadWith_of_ok hcompile]
      exact h.publish hgives (Nat.le_succ _) (Nat.lt_succ_self _)

/-- Every request carries the account on. -/
theorem Publishes.serve (h : Publishes key initial requests s) (request : SlotRequest) :
    Publishes key initial (requests ++ [request]) (s.serve request) := by
  cases request with
  | reload source => exact h.note_reloadWith rfl
  | reloadWith source options => exact h.note_reloadWith rfl
  | publish filter => exact h.publish rfl (s.supply.le_past filter) (s.supply.lt_past filter)

theorem Publishes.run (h : Publishes key initial requests s) (more : List SlotRequest) :
    Publishes key initial (requests ++ more) (s.run more) := by
  induction more generalizing requests s with
  | nil => rwa [List.append_nil]
  | cons request more ih =>
      have hmore := ih (h.serve request)
      rwa [List.append_assoc] at hmore

/-- The number that is drawn next belongs to no filter that the slot has
held. -/
theorem Publishes.unseen_next (h : Publishes key initial requests s) (filter : CompiledFilter) :
    s.Unseen initial ⟨s.supply.next, filter⟩ :=
  fun seen hseen => Nat.ne_of_lt (h.drawn seen hseen)

/-- A slot of which callers see only what was published to it, and no
publication by halves. -/
structure AllOrNothing (key : String) (initial : Shared) (requests : List SlotRequest)
    (s : SlotSession) : Prop where
  key : s.slot.key = key
  publications : s.publications.reverse.map Shared.filter = requests.filterMap (·.gives?)
  current : s.slot.current = s.publications.headD initial
  generation : s.slot.generation.toNat = (requests.filterMap (·.gives?)).length % UInt64.size
  refused : ∀ source options e, CompiledFilter.compile options source = .error e →
    s.slot.reloadWith s.supply source options = (.error e, s.slot, s.supply)
  reloaded : ∀ source options filter, CompiledFilter.compile options source = .ok filter →
    filter.source = source ∧ Filter.parse options source = .ok filter.root ∧
      ∃ fresh supply, fresh.filter = filter ∧ s.Unseen initial fresh ∧
        s.slot.reloadWith s.supply source options = (.ok fresh, s.slot.publish fresh, supply)
  byDefault : ∀ source,
    s.slot.reload s.supply source = s.slot.reloadWith s.supply source .default
  handed : ∀ filter,
    s.slot.publish filter = ⟨s.slot.key, filter, s.slot.generation + 1⟩

/-- Whatever a slot is asked, it publishes all or nothing. It holds the very
filter of the last request that published one and has counted them all; a
definition that is refused changes neither, and one that compiles gives a
filter that nobody has had, which is answered and held alike. -/
theorem all_or_nothing_run (key : String) (initial : Shared) (supply : Supply)
    (requests : List SlotRequest) :
    AllOrNothing key initial requests ((start key initial supply).run requests) := by
  have h : Publishes key initial requests ((start key initial supply).run requests) :=
    (publishes_start key initial supply).run requests
  constructor
  case key => exact h.key
  case publications => exact h.publications
  case current => exact h.current
  case generation =>
      rw [h.generation, ← h.publications, List.length_map, List.length_reverse]
      exact UInt64.toNat_ofNat
  case refused => exact fun _ _ _ => FilterSlot.reloadWith_of_error
  case reloaded =>
      intro source options filter hcompile
      obtain ⟨hsource, hroot⟩ := CompiledFilter.compile_eq_ok_iff.mp hcompile
      exact ⟨hsource, hroot, _, _, rfl, h.unseen_next filter,
        FilterSlot.reloadWith_of_ok hcompile⟩
  case byDefault => exact fun _ => rfl
  case handed => exact fun _ => rfl

/-- A filter that has been published before counts again. -/
example : ((start "k" ⟨0, .acceptAll⟩ .start).run
    [.reload "Folder()", .publish ⟨0, .acceptAll⟩]).slot.generation = 2 := by
  decide +kernel

end SlotSession

end NodeSieve
