import NodeSieve.Definition.Lower
import NodeSieve.Filter.Render
import NodeSieve.Filter.Verdict

/-!
# Compiled definitions

A filter together with the text that defined it. Two of them are the same if
text and filter are.
-/

namespace NodeSieve

structure CompiledFilter where
  source : String
  root : Filter
deriving DecidableEq, Repr, Inhabited

namespace CompiledFilter

instance : BEq CompiledFilter where
  beq f g := f.source == g.source && f.root == g.root

def compile (options : ParseOptions) (source : String) : Except FilterError CompiledFilter :=
  (Filter.parse options source).map fun root => ⟨source, root⟩

theorem compile_eq_ok_iff {options : ParseOptions} {source : String} {f : CompiledFilter} :
    compile options source = .ok f ↔
      f.source = source ∧ Filter.parse options source = .ok f.root := by
  rw [compile, map_eq_ok_iff]
  constructor
  · intro h
    obtain ⟨root, hroot, rfl⟩ := h
    exact ⟨rfl, hroot⟩
  · intro h
    obtain ⟨rfl, hroot⟩ := h
    exact ⟨f.root, hroot, rfl⟩

/-- The filter of a definition that was never given. -/
def acceptAll : CompiledFilter :=
  ⟨"", .acceptAll⟩

/-- Without a text, everything is accepted. -/
def compileOptional (options : ParseOptions) : Option String → Except FilterError CompiledFilter
  | none => .ok acceptAll
  | some source => compile options source

def render (f : CompiledFilter) : String :=
  f.root.render

def accepts (f : CompiledFilter) (r : Resource) : Bool :=
  f.root.accepts r

end CompiledFilter

end NodeSieve
