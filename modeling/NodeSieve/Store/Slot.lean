import NodeSieve.Store.Shared
import NodeSieve.Text.Quoted

/-!
# Slots

A slot publishes one filter under a key and counts how often it has published.
A definition that is refused changes nothing, and whoever holds a filter keeps
it whatever is published later.
-/

namespace NodeSieve

structure FilterSlot where
  key : String
  current : Shared
  /-- How often a filter has been published since the slot was made; the count
  starts over after `2 ^ 64`. -/
  generation : UInt64
deriving Repr, Inhabited

namespace FilterSlot

/-- A slot that holds a filter from the start. -/
def new (key : String) (filter : Shared) : FilterSlot :=
  ⟨key, filter, 0⟩

/-- A slot for a definition. -/
def activate (supply : Supply) (key source : String) (options : ParseOptions) :
    Except FilterError FilterSlot × Supply :=
  match supply.compile options source with
  | (.error e, supply) => (.error e, supply)
  | (.ok filter, supply) => (.ok (new key filter), supply)

def publish (slot : FilterSlot) (filter : Shared) : FilterSlot :=
  { slot with current := filter, generation := slot.generation + 1 }

/-- Publishes the filter of a definition, unless that is refused. -/
def reloadWith (slot : FilterSlot) (supply : Supply) (source : String) (options : ParseOptions) :
    Except FilterError Shared × FilterSlot × Supply :=
  match supply.compile options source with
  | (.error e, supply) => (.error e, slot, supply)
  | (.ok filter, supply) => (.ok filter, slot.publish filter, supply)

/-- As `reloadWith`, under the default options. -/
def reload (slot : FilterSlot) (supply : Supply) (source : String) :
    Except FilterError Shared × FilterSlot × Supply :=
  slot.reloadWith supply source .default

def accepts (slot : FilterSlot) (r : Resource) : Bool :=
  slot.current.filter.accepts r

/-- A slot as it is shown to its maintainers. -/
def describe (slot : FilterSlot) : String :=
  "FilterSlot \x7b key: " ++ Text.quoted slot.key ++
    ", source: " ++ Text.quoted slot.current.filter.source ++
    ", generation: " ++ toString slot.generation.toNat ++ " \x7d"

section

variable {slot : FilterSlot} {supply : Supply} {source : String} {options : ParseOptions}

theorem reloadWith_of_error {e : FilterError}
    (h : CompiledFilter.compile options source = .error e) :
    slot.reloadWith supply source options = (.error e, slot, supply) := by
  rw [reloadWith, Supply.compile, h]

theorem reloadWith_of_ok {filter : CompiledFilter}
    (h : CompiledFilter.compile options source = .ok filter) :
    slot.reloadWith supply source options =
      (.ok ⟨supply.next, filter⟩, slot.publish ⟨supply.next, filter⟩, ⟨supply.next + 1⟩) := by
  rw [reloadWith, Supply.compile, h]
  rfl

end

end FilterSlot

end NodeSieve
