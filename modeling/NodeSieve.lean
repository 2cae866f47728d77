import NodeSieve.Config
import NodeSieve.Definition.Group
import NodeSieve.Definition.Lower
import NodeSieve.Definition.Mismatch
import NodeSieve.Definition.Reader
import NodeSieve.Definition.Tree
import NodeSieve.Definition.TypeRules
import NodeSieve.Document.Codec
import NodeSieve.Document.ConfigFile
import NodeSieve.Document.Json
import NodeSieve.Document.JsonSetting
import NodeSieve.Document.Record
import NodeSieve.Document.Setting
import NodeSieve.Document.SettingPath
import NodeSieve.Document.Toml.Reader
import NodeSieve.Document.Toml.Scalar
import NodeSieve.Document.Toml.Table
import NodeSieve.Document.Toml.Text
import NodeSieve.Document.Yaml.Node
import NodeSieve.Document.Yaml.Place
import NodeSieve.Document.Yaml.Scalar
import NodeSieve.Document.Yaml.Tag
import NodeSieve.Document.Yaml.Token
import NodeSieve.Error
import NodeSieve.Filter.Compiled
import NodeSieve.Filter.Pattern
import NodeSieve.Filter.Predicate
import NodeSieve.Filter.Render
import NodeSieve.Filter.Resource
import NodeSieve.Filter.Select
import NodeSieve.Filter.Sign
import NodeSieve.Filter.Tree
import NodeSieve.Filter.Verdict
import NodeSieve.LogLevel
import NodeSieve.Number.Binary64
import NodeSieve.Number.Shortest
import NodeSieve.Proofs.Activation
import NodeSieve.Proofs.Blanks
import NodeSieve.Proofs.Canonical
import NodeSieve.Proofs.ClassTracking
import NodeSieve.Proofs.Comparison
import NodeSieve.Proofs.Completion
import NodeSieve.Proofs.Duality
import NodeSieve.Proofs.EscapedNames
import NodeSieve.Proofs.Faults
import NodeSieve.Proofs.FirstOccurrences
import NodeSieve.Proofs.Grammar
import NodeSieve.Proofs.History
import NodeSieve.Proofs.Joining
import NodeSieve.Proofs.LiteralPattern
import NodeSieve.Proofs.Lowering
import NodeSieve.Proofs.Meaning
import NodeSieve.Proofs.Members
import NodeSieve.Proofs.Memo
import NodeSieve.Proofs.MixinTypes
import NodeSieve.Proofs.NestingLimit
import NodeSieve.Proofs.Occurrence
import NodeSieve.Proofs.Parentheses
import NodeSieve.Proofs.Pieces
import NodeSieve.Proofs.PropertyNames
import NodeSieve.Proofs.Publication
import NodeSieve.Proofs.Quoting
import NodeSieve.Proofs.Reading
import NodeSieve.Proofs.Reload
import NodeSieve.Proofs.RuleChanges
import NodeSieve.Proofs.Sameness
import NodeSieve.Proofs.Search
import NodeSieve.Proofs.Selection
import NodeSieve.Proofs.Shape
import NodeSieve.Proofs.Spans
import NodeSieve.Proofs.Splitting
import NodeSieve.Proofs.SystemNodes
import NodeSieve.Proofs.Tracking
import NodeSieve.Proofs.Trimming
import NodeSieve.Proofs.TypeNames
import NodeSieve.Proofs.WrittenForm
import NodeSieve.Regex.Ast
import NodeSieve.Regex.BracketClass
import NodeSieve.Regex.ClassSet
import NodeSieve.Regex.Compile
import NodeSieve.Regex.Encoding
import NodeSieve.Regex.Error
import NodeSieve.Regex.Escape
import NodeSieve.Regex.Expr
import NodeSieve.Regex.Group
import NodeSieve.Regex.Look
import NodeSieve.Regex.Match
import NodeSieve.Regex.Needle
import NodeSieve.Regex.Plan
import NodeSieve.Regex.Program
import NodeSieve.Regex.Reader
import NodeSieve.Regex.Remainder
import NodeSieve.Regex.Repetition
import NodeSieve.Regex.Resolve
import NodeSieve.Regex.Term
import NodeSieve.Regex.Token
import NodeSieve.Regex.Trivia
import NodeSieve.Store.Cache
import NodeSieve.Store.NodeFilters
import NodeSieve.Store.Shared
import NodeSieve.Store.Slot
import NodeSieve.Text.Numeral
import NodeSieve.Text.Padding
import NodeSieve.Text.Quoted
import NodeSieve.Text.Utf8
import NodeSieve.Unicode.Additions
import NodeSieve.Unicode.Age
import NodeSieve.Unicode.BinaryProperty
import NodeSieve.Unicode.Blank
import NodeSieve.Unicode.CaseOrbit
import NodeSieve.Unicode.CharSet
import NodeSieve.Unicode.GeneralCategory
import NodeSieve.Unicode.Property
import NodeSieve.Unicode.PropertyName
import NodeSieve.Unicode.Runs
import NodeSieve.Unicode.Script
import NodeSieve.Unicode.Segmentation
