/-!
# Resources

What a filter can see of a node in the repository. The mixin types are a set:
each is listed once, in the order in which they were first added.
-/

namespace NodeSieve

structure Resource where
  path : String
  name : String
  primaryType : String
  mixinTypes : List String
  resourceType : Option String
  mimeType : Option String
  isFolder : Bool
deriving DecidableEq, Repr

namespace Resource

/-- What stands behind the last slash, or everything where there is none. -/
def lastSegment (path : List Char) : List Char :=
  (path.reverse.takeWhile (· != '/')).reverse

/-- The resource at a path, with nothing known about it but its name. -/
def ofPath (path : String) : Resource :=
  ⟨path, String.ofList (lastSegment path.toList), "", [], none, none, false⟩

def withName (r : Resource) (name : String) : Resource :=
  { r with name }

def withPrimaryType (r : Resource) (primaryType : String) : Resource :=
  { r with primaryType }

/-- Adds a mixin type, unless it is there. -/
def withMixinType (r : Resource) (mixinType : String) : Resource :=
  if mixinType ∈ r.mixinTypes then r else { r with mixinTypes := r.mixinTypes ++ [mixinType] }

def withMixinTypes (r : Resource) (mixinTypes : List String) : Resource :=
  mixinTypes.foldl withMixinType r

def withResourceType (r : Resource) (resourceType : String) : Resource :=
  { r with resourceType := some resourceType }

def withMimeType (r : Resource) (mimeType : String) : Resource :=
  { r with mimeType := some mimeType }

def withFolder (r : Resource) (isFolder : Bool) : Resource :=
  { r with isFolder }

def hasMixinType (r : Resource) (mixinType : String) : Bool :=
  r.mixinTypes.contains mixinType

theorem mem_mixinTypes_withMixinType {r : Resource} {mixinType text : String} :
    text ∈ (r.withMixinType mixinType).mixinTypes ↔ text ∈ r.mixinTypes ∨ text = mixinType := by
  rw [withMixinType]
  split
  · next hmem =>
      refine ⟨.inl, fun h => ?_⟩
      rcases h with h | rfl
      · exact h
      · exact hmem
  · exact List.mem_append.trans (or_congr Iff.rfl List.mem_singleton)

theorem mem_mixinTypes_withMixinTypes {r : Resource} {mixinTypes : List String} {text : String} :
    text ∈ (r.withMixinTypes mixinTypes).mixinTypes ↔
      text ∈ r.mixinTypes ∨ text ∈ mixinTypes := by
  rw [withMixinTypes]
  induction mixinTypes generalizing r with
  | nil => exact (or_iff_left List.not_mem_nil).symm
  | cons first rest ih =>
      rw [List.foldl_cons, ih, mem_mixinTypes_withMixinType, List.mem_cons, or_assoc]

end Resource

end NodeSieve
