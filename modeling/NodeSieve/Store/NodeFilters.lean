import NodeSieve.Config
import NodeSieve.Filter.Select
import NodeSieve.Store.Slot

/-!
# The filters of a repository

Five slots and the limit on the number of results. They are activated together
or not at all. A later configuration replaces what it can: a definition that is
refused leaves its slot as it is, while a limit of zero refuses the
configuration as a whole.
-/

namespace NodeSieve

structure NodeFilters where
  slots : PerKey FilterSlot
  queryResultLimit : UInt64
  supply : Supply
deriving Repr

namespace NodeFilters

/-- The slot for one key of a configuration. -/
def activateSlot (config : FilterConfig) (supply : Supply) (key : FilterKey) :
    Except SieveError (FilterSlot × Supply) :=
  match FilterSlot.activate supply key.label (config.definition key) config.parseOptions with
  | (.error e, _) => .error (.filterRejected key.label e)
  | (.ok slot, supply) => .ok (slot, supply)

/-- The filters of a configuration; the first definition that is refused is
reported. -/
def activate (config : FilterConfig) : Except SieveError NodeFilters := do
  config.validate
  let (page, supply) ← activateSlot config .start .page
  let (default, supply) ← activateSlot config supply .default
  let (treeIntermediate, supply) ← activateSlot config supply .treeIntermediate
  let (referenceable, supply) ← activateSlot config supply .referenceable
  let (orderable, supply) ← activateSlot config supply .orderable
  return ⟨⟨page, default, treeIntermediate, referenceable, orderable⟩, config.queryResultLimit,
    supply⟩

/-- Where the slots are kept, in the order in which a configuration lists its
definitions. -/
def slotOrder : List FilterKey :=
  [.page, .default, .treeIntermediate, .referenceable, .orderable]

/-- Reloads one slot from a definition, and reports a definition that is
refused under the name that the configuration gives it. -/
def reloadSlot (options : ParseOptions) (filters : NodeFilters) (key : FilterKey)
    (entry : String × String) : Option SieveError × NodeFilters :=
  match (filters.slots.get key).reloadWith filters.supply entry.2 options with
  | (.error e, slot, supply) =>
    (some (.filterRejected entry.1 e),
      { filters with slots := filters.slots.set key slot, supply })
  | (.ok _, slot, supply) => (none, { filters with slots := filters.slots.set key slot, supply })

/-- Reloads slots from the definitions that are paired with them, and reports
all that are refused. -/
def reloadSlots (options : ParseOptions) (filters : NodeFilters) :
    List (FilterKey × String × String) → List SieveError × NodeFilters
  | [] => ([], filters)
  | (key, entry) :: pairs =>
    let (error?, filters) := reloadSlot options filters key entry
    let (errors, filters) := reloadSlots options filters pairs
    (error?.toList ++ errors, filters)

/-- Puts a configuration in force, as far as it can be. -/
def reload (filters : NodeFilters) (config : FilterConfig) :
    Except (List SieveError) Unit × NodeFilters :=
  match config.validate with
  | .error e => (.error [e], filters)
  | .ok () =>
    let (errors, filters) :=
      reloadSlots config.parseOptions filters (slotOrder.zip config.filters)
    (if errors.isEmpty then .ok () else .error errors,
      { filters with queryResultLimit := config.queryResultLimit })

/-- Where the first slot is kept that has a key's name. -/
def slotKey? (filters : NodeFilters) (label : String) : Option FilterKey :=
  slotOrder.find? fun key => (filters.slots.get key).key == label

/-- The first slot that has a key's name. -/
def slot? (filters : NodeFilters) (label : String) : Option FilterSlot :=
  (filters.slotKey? label).map filters.slots.get

/-- Reloads one slot from a definition of its own, under the default options. -/
def reloadOne (filters : NodeFilters) (key : FilterKey) (source : String) :
    Except FilterError Shared × NodeFilters :=
  let (result, slot, supply) := (filters.slots.get key).reload filters.supply source
  (result, { filters with slots := filters.slots.set key slot, supply })

/-- What the slot of a key publishes. -/
def published (filters : NodeFilters) (key : FilterKey) : Shared :=
  (filters.slots.get key).current

/-- The filter that is in force under a key. -/
def filter (filters : NodeFilters) (key : FilterKey) : CompiledFilter :=
  (filters.published key).filter

/-- What is selected of a listing for users to see, up to the limit. -/
def visible (filters : NodeFilters) (items : List Resource) : Filter.Selection :=
  (filters.filter .default).root.select filters.queryResultLimit.toNat items

/-- The resources that users get to see. -/
def selectVisible (filters : NodeFilters) (items : List Resource) : List Resource :=
  (filters.visible items).taken

end NodeFilters

end NodeSieve
