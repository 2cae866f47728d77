import NodeSieve.Definition.Reader
import NodeSieve.Definition.TypeRules
import NodeSieve.Filter.Tree

/-!
# From a definition to its filter

Patterns are compiled only when the whole definition is known to be well
written, so an error in the writing is reported before any pattern is looked
at. Patterns are compiled in the order in which they stand, and the first that
is refused is reported.
-/

namespace NodeSieve

structure ParseOptions where
  pattern : PatternOptions
  typeRules : TypeRules
  maxDepth : UInt64
deriving DecidableEq, Repr

def ParseOptions.default : ParseOptions :=
  ⟨.default, .default, 64⟩

namespace Definition

/-- A pattern of a test. -/
def lowerPattern (options : ParseOptions) (label : String) (source : List Char) :
    Except FilterError Pattern :=
  match Pattern.ofChars options.pattern source with
  | .ok pattern => .ok pattern
  | .error e => .error (.compile label (String.ofList source) e.message)

def lowerPatterns (options : ParseOptions) (label : String) :
    List (List Char) → Except FilterError (List Pattern)
  | [] => .ok []
  | source :: sources =>
    match lowerPattern options label source with
    | .error e => .error e
    | .ok pattern => (lowerPatterns options label sources).map (pattern :: ·)

/-- The test for one type. -/
def lowerType (options : ParseOptions) (sign : Sign) (literal : List Char) :
    Except FilterError Filter :=
  let name := unescape literal
  match Pattern.literal options.pattern name with
  | .ok pattern => .ok (.leaf (options.typeRules.resolve name) sign [pattern])
  | .error e => .error (.compile "Type" (String.ofList name) e.message)

def lowerTypes (options : ParseOptions) (sign : Sign) :
    List (List Char) → Except FilterError (List Filter)
  | [] => .ok []
  | literal :: literals =>
    match lowerType options sign literal with
    | .error e => .error e
    | .ok leaf => (lowerTypes options sign literals).map (leaf :: ·)

/-- The tests for several types hold together as one test would: with `+` if
any of them holds, and with `-` if none of the types is there. -/
def joinTypes (sign : Sign) : List Filter → Filter
  | [leaf] => leaf
  | leaves =>
    match sign with
    | .include => .any leaves
    | .exclude => .all leaves

mutual

/-- The filter of a definition. -/
def lower (options : ParseOptions) : Definition → Except FilterError Filter
  | .folder => .ok .folder
  | .all children => (lowerAll options children).map .all
  | .any children => (lowerAll options children).map .any
  | .field f sign sources =>
    (lowerPatterns options f.label sources).map fun patterns => .leaf (.field f) sign patterns
  | .type sign literals => (lowerTypes options sign literals).map (joinTypes sign)

def lowerAll (options : ParseOptions) : List Definition → Except FilterError (List Filter)
  | [] => .ok []
  | d :: ds =>
    match lower options d with
    | .error e => .error e
    | .ok x => (lowerAll options ds).map (x :: ·)

end

end Definition

/-- The filter of a definition's text; a blank text accepts everything. -/
def Filter.ofChars (options : ParseOptions) (source : List Char) : Except FilterError Filter :=
  match Definition.read options.maxDepth.toNat source with
  | .error m => .error (m.toError source)
  | .ok none => .ok .acceptAll
  | .ok (some d) => d.lower options

/-- The filter that a text defines. -/
def Filter.parse (options : ParseOptions) (source : String) : Except FilterError Filter :=
  Filter.ofChars options source.toList

end NodeSieve
