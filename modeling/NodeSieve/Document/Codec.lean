import NodeSieve.Config
import NodeSieve.Document.Record
import NodeSieve.Filter.Resource

/-!
# Values as documents

How resources, options and configurations are written as documents, and how
they are read back. Every field is written. A field may be missing when it is
read if there is a value for it by default; `null` is a value only for the two
texts that a resource may lack.
-/

namespace NodeSieve.Document

/-! ### Options -/

def ofPatternOptions (o : PatternOptions) : Json :=
  .object [("case_insensitive", .bool o.caseInsensitive), ("size_limit", .ofUInt64 o.sizeLimit)]

def patternOptions? (j : Json) : Option PatternOptions := do
  match ← j.record? ["case_insensitive", "size_limit"] with
  | [caseInsensitive, sizeLimit] =>
    let default := PatternOptions.default
    return ⟨← orElse default.caseInsensitive Json.bool? caseInsensitive,
      ← orElse default.sizeLimit Json.uint64? sizeLimit⟩
  | _ => none

def targetName : TypeTarget → String
  | .primaryType => "primary_type"
  | .mixinType => "mixin_type"
  | .generic => "generic"

def targetNamed? : String → Option TypeTarget
  | "primary_type" => some .primaryType
  | "mixin_type" => some .mixinType
  | "generic" => some .generic
  | _ => none

/-- A target is written as its name; it may also be read as a field of that
name without content. -/
def target? : Json → Option TypeTarget
  | .string name => targetNamed? name
  | .object [(name, .null)] => targetNamed? name
  | _ => none

def ofTypeRule (rule : TypeRule) : Json :=
  .object [("prefix", .string rule.start), ("target", .string (targetName rule.target))]

def typeRule? (j : Json) : Option TypeRule := do
  match ← j.record? ["prefix", "target"] with
  | [start, target] => return ⟨← required Json.string? start, ← required target? target⟩
  | _ => none

def ofTypeRules (rules : TypeRules) : Json :=
  .array (rules.rules.map ofTypeRule)

def typeRules? : Json → Option TypeRules
  | .array items => (items.mapM typeRule?).map .mk
  | _ => none

def ofParseOptions (o : ParseOptions) : Json :=
  .object [("pattern", ofPatternOptions o.pattern), ("type_resolution", ofTypeRules o.typeRules),
    ("max_depth", .ofUInt64 o.maxDepth)]

def parseOptions? (j : Json) : Option ParseOptions := do
  match ← j.record? ["pattern", "type_resolution", "max_depth"] with
  | [pattern, typeRules, maxDepth] =>
    let default := ParseOptions.default
    return ⟨← orElse default.pattern patternOptions? pattern,
      ← orElse default.typeRules typeRules? typeRules,
      ← orElse default.maxDepth Json.uint64? maxDepth⟩
  | _ => none

/-! ### Resources -/

def ofResource (r : Resource) : Json :=
  .object [("path", .string r.path), ("name", .string r.name),
    ("primaryType", .string r.primaryType), ("mixinTypes", .ofStrings r.mixinTypes),
    ("resourceType", .ofOptional r.resourceType), ("mimeType", .ofOptional r.mimeType),
    ("isFolder", .bool r.isFolder)]

/-- A list without repetitions, made in place: what is in front of `index` has
been gone through, and the member there is taken out if it is among that. -/
def eraseRepeats (index : Nat) (as : List String) : List String :=
  if h : index < as.length then
    if as[index] ∈ as.take index then eraseRepeats index (as.eraseIdx index)
    else eraseRepeats (index + 1) as
  else as
termination_by as.length - index
decreasing_by
  · rw [List.length_eraseIdx_of_lt h]
    omega
  · omega

theorem eraseRepeats_end (kept : List String) : eraseRepeats kept.length kept = kept := by
  rw [eraseRepeats, dif_neg (Nat.lt_irrefl _)]

/-- One round: the next member is taken out, or it stays and counts as gone
through. -/
theorem eraseRepeats_append_cons (kept rest : List String) (a : String) :
    eraseRepeats kept.length (kept ++ a :: rest) =
      if a ∈ kept then eraseRepeats kept.length (kept ++ rest)
      else eraseRepeats (kept ++ [a]).length (kept ++ [a] ++ rest) := by
  have hlength : kept.length < (kept ++ a :: rest).length := by
    rw [List.length_append, List.length_cons]
    omega
  have hnext : (kept ++ a :: rest)[kept.length] = a := by
    rw [List.getElem_append_right (Nat.le_refl _)]
    simp
  have herase : (kept ++ a :: rest).eraseIdx kept.length = kept ++ rest := by
    rw [List.eraseIdx_append_of_length_le (Nat.le_refl _), Nat.sub_self, List.eraseIdx_cons_zero]
  rw [eraseRepeats, dif_pos hlength, hnext, List.take_left, herase, List.append_assoc,
    List.singleton_append, List.length_append, List.length_singleton]

/-- Mixin types that are listed more than once keep their first place. -/
def mixinTypes? (j : Json) : Option (List String) :=
  j.strings?.map (eraseRepeats 0)

def resource? (j : Json) : Option Resource := do
  match ← j.record? ["path", "name", "primaryType", "mixinTypes", "resourceType", "mimeType",
    "isFolder"] with
  | [path, name, primaryType, mixinTypes, resourceType, mimeType, isFolder] =>
    return {
      path := ← required Json.string? path
      name := ← required Json.string? name
      primaryType := ← orElse "" Json.string? primaryType
      mixinTypes := ← orElse [] mixinTypes? mixinTypes
      resourceType := ← orElse none Json.optionalString? resourceType
      mimeType := ← orElse none Json.optionalString? mimeType
      isFolder := ← orElse false Json.bool? isFolder }
  | _ => none

/-! ### Configurations -/

def ofConfig (c : FilterConfig) : Json :=
  .object [("page_node_filter", .string c.definitions.page),
    ("default_node_filter", .string c.definitions.default),
    ("tree_intermediate_filter", .string c.definitions.treeIntermediate),
    ("referenceable_nodes_filter", .string c.definitions.referenceable),
    ("orderable_nodes_filter", .string c.definitions.orderable),
    ("query_result_limit", .ofUInt64 c.queryResultLimit),
    ("pattern", ofPatternOptions c.pattern), ("type_rules", ofTypeRules c.typeRules)]

/-- The names of a configuration's fields. -/
def configNames : List String :=
  ["page_node_filter", "default_node_filter", "tree_intermediate_filter",
    "referenceable_nodes_filter", "orderable_nodes_filter", "query_result_limit", "pattern",
    "type_rules"]

def config? (j : Json) : Option FilterConfig := do
  match ← j.record? configNames with
  | [page, default, treeIntermediate, referenceable, orderable, limit, pattern, typeRules] =>
    let fallback := FilterConfig.default
    return {
      definitions := {
        page := ← orElse fallback.definitions.page Json.string? page
        default := ← orElse fallback.definitions.default Json.string? default
        treeIntermediate :=
          ← orElse fallback.definitions.treeIntermediate Json.string? treeIntermediate
        referenceable := ← orElse fallback.definitions.referenceable Json.string? referenceable
        orderable := ← orElse fallback.definitions.orderable Json.string? orderable }
      queryResultLimit := ← orElse fallback.queryResultLimit Json.uint64? limit
      pattern := ← orElse fallback.pattern patternOptions? pattern
      typeRules := ← orElse fallback.typeRules typeRules? typeRules }
  | _ => none

end NodeSieve.Document
