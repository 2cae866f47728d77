/-!
# What a test looks at

Six predicates look at one field of a resource each. A type that no rule
assigns to one field is looked for in the primary type and in the mixin types
alike; such a test keeps the type's name, its tag.
-/

namespace NodeSieve

/-- The fields that patterns can be matched against. -/
inductive Field where
  | name
  | path
  | primaryType
  | resourceType
  | mimeType
  | mixinType
deriving DecidableEq, Repr

namespace Field

def all : List Field :=
  [.name, .path, .primaryType, .resourceType, .mimeType, .mixinType]

/-- The name of the predicate that looks at a field. -/
def label : Field → String
  | .name => "Name"
  | .path => "Path"
  | .primaryType => "PrimaryType"
  | .resourceType => "ResourceType"
  | .mimeType => "MimeType"
  | .mixinType => "MixinType"

def ofLabel? : String → Option Field
  | "Name" => some .name
  | "Path" => some .path
  | "PrimaryType" => some .primaryType
  | "ResourceType" => some .resourceType
  | "MimeType" => some .mimeType
  | "MixinType" => some .mixinType
  | _ => none

@[simp] theorem ofLabel?_label (field : Field) : ofLabel? field.label = some field := by
  cases field <;> rfl

theorem label_of_ofLabel? {label : String} {field : Field} (h : ofLabel? label = some field) :
    field.label = label := by
  unfold ofLabel? at h
  split at h <;> cases h <;> rfl

end Field

/-- What a test looks at. -/
inductive Predicate where
  | field (field : Field)
  | genericType (tag : String)
deriving DecidableEq, Repr

def Predicate.label : Predicate → String
  | .field f => f.label
  | .genericType _ => "Type"

end NodeSieve
