import NodeSieve.Document.Codec
import NodeSieve.Document.JsonSetting
import NodeSieve.Document.SettingPath
import NodeSieve.Document.Toml.Reader
import NodeSieve.Document.Yaml.Node

/-!
# Configuration files

The format of a file goes by its extension. Whatever the format, a file is a
table of settings, from which a configuration is read leniently and then
checked.
-/

namespace NodeSieve.Document

/-! ### Configurations as settings -/

namespace Setting

def patternOptions? (s : Setting) : Option PatternOptions := do
  match ← s.record? ["case_insensitive", "size_limit"] with
  | [caseInsensitive, sizeLimit] =>
    let default := PatternOptions.default
    return ⟨← orElse default.caseInsensitive bool? caseInsensitive,
      ← orElse default.sizeLimit uint64? sizeLimit⟩
  | _ => none

/-- A target is named by a text, or by the name of the only field of a table. -/
def target? : Setting → Option TypeTarget
  | .text name | .table [(name, _)] => targetNamed? name
  | _ => none

def typeRule? (s : Setting) : Option TypeRule := do
  match ← s.record? ["prefix", "target"] with
  | [start, target] => return ⟨← required string? start, ← required target? target⟩
  | _ => none

def typeRules? (s : Setting) : Option TypeRules := do
  return ⟨← (← s.list?).mapM typeRule?⟩

def config? (s : Setting) : Option FilterConfig := do
  match ← s.record? configNames with
  | [page, default, treeIntermediate, referenceable, orderable, limit, pattern, typeRules] =>
    let fallback := FilterConfig.default
    return {
      definitions := {
        page := ← orElse fallback.definitions.page string? page
        default := ← orElse fallback.definitions.default string? default
        treeIntermediate := ← orElse fallback.definitions.treeIntermediate string? treeIntermediate
        referenceable := ← orElse fallback.definitions.referenceable string? referenceable
        orderable := ← orElse fallback.definitions.orderable string? orderable }
      queryResultLimit := ← orElse fallback.queryResultLimit uint64? limit
      pattern := ← orElse fallback.pattern patternOptions? pattern
      typeRules := ← orElse fallback.typeRules typeRules? typeRules }
  | _ => none

end Setting

/-! ### Files -/

inductive FileFormat where
  | toml
  | json
  | yaml
deriving DecidableEq, Repr

/-- The format of an extension, whose case counts. -/
def FileFormat.ofExtension? : String → Option FileFormat
  | "toml" => some .toml
  | "json" => some .json
  | "yaml" | "yml" => some .yaml
  | _ => none

/-- The entries of a file's content; a byte order mark in front does not
count. -/
def FileFormat.entries? (format : FileFormat) (content : String) :
    Option (List (String × Setting)) :=
  let text := match content.toList with
    | '\uFEFF' :: rest => String.ofList rest
    | _ => content
  match format with
  | .toml => Toml.read? text
  | .json => Json.entries? text
  | .yaml => Yaml.entries? text

namespace ConfigFile

/-- The configuration of a file that is there. -/
def load (extension content : String) : Except SieveError FilterConfig := do
  let config? : Option FilterConfig := do
    let format ← FileFormat.ofExtension? extension
    (Setting.ofEntries (← format.entries? content)).config?
  match config? with
  | none => throw (.configUnreadable "unknown" "the file does not hold a configuration")
  | some config =>
    config.validate
    return config

/-- There is no configuration where there is no regular file. -/
def loadMissing (path : String) : Except SieveError FilterConfig :=
  .error (.illegalArgument s!"Config file does not exist or is not a file: {path}")

end ConfigFile

end NodeSieve.Document
