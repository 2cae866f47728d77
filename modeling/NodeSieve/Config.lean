import NodeSieve.Definition.Lower
import NodeSieve.Error

/-!
# Configuration

A repository is served by five filters, each under a key of its own, and by a
limit on the number of results. A configuration gives their definitions and the
options under which these are compiled.
-/

namespace NodeSieve

/-- The keys of the five filters. -/
inductive FilterKey where
  | page
  | default
  | treeIntermediate
  | referenceable
  | orderable
deriving DecidableEq, Repr

namespace FilterKey

def label : FilterKey → String
  | .page => "node.page.filter"
  | .default => "node.default.filter"
  | .treeIntermediate => "tree.intermediate.filter"
  | .referenceable => "node.referenceable.filter"
  | .orderable => "node.orderable.filter"

end FilterKey

/-- One value for each of the five keys. -/
structure PerKey (α : Type) where
  page : α
  default : α
  treeIntermediate : α
  referenceable : α
  orderable : α
deriving DecidableEq, Repr

namespace PerKey

def get {α : Type} (values : PerKey α) : FilterKey → α
  | .page => values.page
  | .default => values.default
  | .treeIntermediate => values.treeIntermediate
  | .referenceable => values.referenceable
  | .orderable => values.orderable

def set {α : Type} (values : PerKey α) (key : FilterKey) (value : α) : PerKey α :=
  match key with
  | .page => { values with page := value }
  | .default => { values with default := value }
  | .treeIntermediate => { values with treeIntermediate := value }
  | .referenceable => { values with referenceable := value }
  | .orderable => { values with orderable := value }

@[simp] theorem get_set_self {α : Type} (values : PerKey α) (key : FilterKey) (value : α) :
    (values.set key value).get key = value := by
  cases key <;> rfl

theorem get_set_of_ne {α : Type} (values : PerKey α) {key other : FilterKey} (value : α)
    (h : other ≠ key) : (values.set key value).get other = values.get other := by
  cases key <;> cases other <;> first | rfl | exact absurd rfl h

@[simp] theorem set_get {α : Type} (values : PerKey α) (key : FilterKey) :
    values.set key (values.get key) = values := by
  cases key <;> rfl

end PerKey

structure FilterConfig where
  definitions : PerKey String
  queryResultLimit : UInt64
  pattern : PatternOptions
  typeRules : TypeRules
deriving DecidableEq, Repr

namespace FilterConfig

def defaultDefinitions : PerKey String where
  page :=
    "or\x7bResourceType(+'^[a-z]+:.*([Ss]ite|[Pp]age)$')," ++
      "and\x7bPrimaryType(+'^nt:file$'),MimeType(+'^text/html$')\x7d\x7d"
  default :=
    "and\x7bName(-'^rep:(repo)?[Pp]olicy$')," ++
      "Path(-'^/bin(/.*)?$,^/services(/.*)?$,^/servlet(/.*)?$,^/(jcr:)?system(/.*)?$')\x7d"
  treeIntermediate := "or\x7bFolder(),PrimaryType(+'^dam:Asset(Content)?$')\x7d"
  referenceable := "Type(mix:referenceable)"
  orderable :=
    "or\x7bType(node:orderable)," ++
      "PrimaryType(+'^.*([Oo]rdered|[Pp]age).*$,^sling:(Mapping)$," ++
      "^nt:(unstructured|frozenNode)$,^rep:(ACL|Members|system)$')\x7d"

def default : FilterConfig :=
  ⟨defaultDefinitions, 500, .default, .default⟩

/-- The key of the result limit. -/
def limitKey : String := "query.result.limit"

/-- What is wrong with a limit of zero. -/
def limitError : SieveError :=
  .configValue limitKey "0" "must be greater than zero"

/-- A limit of zero would hide every result. -/
def validate (config : FilterConfig) : Except SieveError Unit :=
  if config.queryResultLimit = 0 then .error limitError else .ok ()

/-- The options under which the definitions are compiled. -/
def parseOptions (config : FilterConfig) : ParseOptions :=
  { ParseOptions.default with pattern := config.pattern, typeRules := config.typeRules }

def definition (config : FilterConfig) (key : FilterKey) : String :=
  config.definitions.get key

/-- The definitions with the names of their keys. -/
def filters (config : FilterConfig) : List (String × String) :=
  [(FilterKey.page.label, config.definitions.page),
    (FilterKey.default.label, config.definitions.default),
    (FilterKey.treeIntermediate.label, config.definitions.treeIntermediate),
    (FilterKey.referenceable.label, config.definitions.referenceable),
    (FilterKey.orderable.label, config.definitions.orderable)]

end FilterConfig

end NodeSieve
