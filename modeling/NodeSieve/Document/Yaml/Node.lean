import NodeSieve.Document.Setting
import NodeSieve.Document.Yaml.Token

/-!
# The nodes of a YAML text

A node is a scalar, a sequence or a mapping. Nodes that are left out are null.
What a plain scalar is goes by its spelling, or by its tag, and one that is not
spelled as its tag demands is invalid; a scalar in quotes or in a block is a
text. An alias stands for the node of its anchor, and inside that node for an
invalid one. A text holds one document at most.
-/

namespace NodeSieve.Document.Yaml

inductive Node where
  | invalid
  | null
  | bool (b : Bool)
  | whole (n : Int)
  | fraction (text : String)
  | text (s : String)
  | sequence (items : List Node)
  | mapping (fields : List (Node × Node))
deriving Inhabited

mutual

/-- Whether two nodes are the same. Fractions are told apart by their
spelling. -/
def Node.same : Node → Node → Bool
  | .invalid, .invalid => true
  | .null, .null => true
  | .bool a, .bool b => a == b
  | .whole m, .whole n => m == n
  | .fraction s, .fraction t => s == t
  | .text s, .text t => s == t
  | .sequence xs, .sequence ys => Node.sameAll xs ys
  | .mapping xs, .mapping ys => Node.sameFields xs ys
  | _, _ => false

def Node.sameAll : List Node → List Node → Bool
  | [], [] => true
  | x :: xs, y :: ys => x.same y && Node.sameAll xs ys
  | _, _ => false

def Node.sameFields : List (Node × Node) → List (Node × Node) → Bool
  | [], [] => true
  | (k, x) :: xs, (l, y) :: ys => k.same l && x.same y && Node.sameFields xs ys
  | _, _ => false

end

/-- The nodes of a mapping are its keys and values in turn. -/
structure Fields where
  done : List (Node × Node)
  key : Option Node

namespace Fields

def empty : Fields :=
  ⟨[], none⟩

/-- Adds a node: a key, if it is valid, or the value of the key in front of it.
A key stands in a mapping once. -/
def add? (node : Node) (fields : Fields) : Option Fields :=
  match fields.key, node with
  | none, .invalid => some fields
  | none, key => some { fields with key := some key }
  | some key, value =>
    if fields.done.any (·.1.same key) then none else some ⟨fields.done ++ [(key, value)], none⟩

/-- Adds a key and a value. -/
def addPair? (key value : Node) (fields : Fields) : Option Fields :=
  (fields.add? key).bind (·.add? value)

/-- The mapping of all nodes; a key that is left without a value does not
count. -/
def node (fields : Fields) : Node :=
  .mapping fields.done

end Fields

/-! ### Plain scalars -/

/-- A whole number of 64 bits with a sign. -/
def signed? (radix : Nat) (cs : List Char) : Option Int := do
  let (negative, n) ← Text.signedNumeral? radix ['+', '-'] cs
  int64? negative n

/-- A decimal of digits with a point or an exponent, as a sign, its digits and
its exponent. -/
def decimal? (cs : List Char) : Option (Bool × Nat × Int) := do
  let (negative, cs) := match cs with
    | '-' :: rest => (true, rest)
    | '+' :: rest => (false, rest)
    | cs => (false, cs)
  let whole := cs.takeWhile Char.isDigit
  let (fraction, rest) := match cs.dropWhile Char.isDigit with
    | '.' :: rest => (rest.takeWhile Char.isDigit, rest.dropWhile Char.isDigit)
    | rest => ([], rest)
  let exponent ← match rest with
    | [] => some 0
    | c :: rest =>
      if c = 'e' ∨ c = 'E' then
        (Text.signedNumeral? 10 ['+', '-'] rest).map fun (negative, n) =>
          if negative then -(n : Int) else n
      else none
  let digits ← Text.numeral? 10 (whole ++ fraction)
  return (negative, digits, exponent - fraction.length)

/-- Words for what is no finite number. -/
def isUnbounded (s : String) : Bool :=
  s ∈ [".inf", ".Inf", ".INF", "+.inf", "+.Inf", "+.INF", "-.inf", "-.Inf", "-.INF", ".nan", ".NaN",
    ".NAN"]

def isFraction (s : String) : Bool :=
  isUnbounded s || (decimal? s.toList).isSome

/-- A whole number by its spelling: in the radix of its first two characters,
or in radix ten. -/
def wholeOf? (s : String) : Option Int :=
  match s.toList with
  | '0' :: 'x' :: rest => signed? 16 rest
  | '0' :: 'o' :: rest => signed? 8 rest
  | '+' :: rest => signed? 10 rest
  | cs => signed? 10 cs

/-- The spellings of truth values. -/
def truth? (s : String) : Option Bool :=
  if s ∈ ["true", "True", "TRUE"] then some true
  else if s ∈ ["false", "False", "FALSE"] then some false
  else none

/-- A plain scalar by its spelling. -/
def Node.ofPlain (s : String) : Node :=
  match wholeOf? s with
  | some n => .whole n
  | none =>
    if s = "" ∨ s = "~" ∨ s = "null" then .null
    else
      match truth? s with
      | some b => .bool b
      | none => if isFraction s then .fraction s else .text s

/-- A plain scalar by the core type of its tag. -/
def Node.ofCore (type : String) (s : String) : Node :=
  match type with
  | "bool" => (truth? s).elim .invalid .bool
  | "int" => (signed? 10 s.toList).elim .invalid .whole
  | "float" => if isFraction s then .fraction s else .invalid
  | "null" => if s = "~" ∨ s = "null" then .null else .invalid
  | _ => .text s

/-- The properties of a node: the name of its anchor, and its tag as the core
type that it names. -/
structure Properties where
  anchor : Option String
  tag : Option (Option String)

def Node.ofScalar (properties : Properties) (plain : Bool) (s : String) : Node :=
  match plain, properties.tag with
  | false, _ => .text s
  | true, none => .ofPlain s
  | true, some (some type) => .ofCore type s
  | true, some none => .text s

/-! ### Reading -/

/-- The tokens that are left, the anchors so far with their nodes, and the
prefixes of the handles that are declared. A node is invalid until it is read
to its end. -/
structure Reading where
  tokens : List Token
  anchors : Array (String × Node)
  handles : List (String × String)

abbrev Reader := StateT Reading Option

namespace Reader

def peek : Reader (Option Token) := do
  return (← get).tokens.head?

def skip : Reader Unit :=
  modify fun r => { r with tokens := r.tokens.tail }

/-- Whether the next token is among the given ones. -/
def sees (tokens : List Token) : Reader Bool := do
  return (← peek).any tokens.contains

def expect (token : Token) : Reader Unit := do
  if ← sees [token] then skip else failure

/-- Adds an anchor, whose node is still to be read, and answers its place. -/
def addAnchor (name : String) : Reader Nat :=
  modifyGet fun r => (r.anchors.size, { r with anchors := r.anchors.push (name, .invalid) })

/-- Gives the anchor at a place its node. -/
def setAnchor (index : Nat) (name : String) (node : Node) : Reader Unit :=
  modify fun r => { r with anchors := r.anchors.setIfInBounds index (name, node) }

/-- Reads a node that may have an anchor. -/
def anchored (name : Option String) (node : Reader Node) : Reader Node := do
  match name with
  | none => node
  | some name =>
    let index ← addAnchor name
    let node ← node
    setAnchor index name node
    return node

/-- The node of the latest anchor of a name. -/
def anchor (name : String) : Reader Node := do
  match (← get).anchors.findRev? (·.1 == name) with
  | some (_, node) => return node
  | none => failure

/-- The core type of a tag, if it has one. -/
def core (tag : Tag) : Reader (Option String) := do
  tag.core? (← get).handles

/-- An anchor and a tag, in either order. -/
def properties : Reader Properties := do
  match ← peek with
  | some (.anchor name) =>
    skip
    match ← peek with
    | some (.tag tag) => skip; return ⟨some name, some (← core tag)⟩
    | _ => return ⟨some name, none⟩
  | some (.tag tag) =>
    skip
    let type ← core tag
    match ← peek with
    | some (.anchor name) => skip; return ⟨some name, some type⟩
    | _ => return ⟨none, some type⟩
  | _ => return ⟨none, none⟩

mutual

/-- A node, in a block or in a flow collection, where a sequence may have no
indentation of its own. Each token is the business of a bounded number of
steps. -/
def node (block unindented : Bool) : Nat → Reader Node
  | 0 => failure
  | steps + 1 => do
    match ← peek with
    | some (.alias name) => skip; anchor name
    | _ =>
      let properties ← properties
      anchored properties.anchor (content block unindented properties steps)

def content (block unindented : Bool) (properties : Properties) : Nat → Reader Node
  | 0 => failure
  | steps + 1 => do
    let token ← peek
    match token, block, unindented with
    | some (.scalar plain text), _, _ => skip; return .ofScalar properties plain text
    | some .flowSequence, _, _ => skip; .sequence <$> flowItems true [] steps
    | some .flowMapping, _, _ => skip; Fields.node <$> flowFields true .empty steps
    | some .blockItem, _, true => .sequence <$> unindentedItems [] steps
    | some .blockSequence, true, _ => skip; .sequence <$> blockItems [] steps
    | some .blockMapping, true, _ => skip; Fields.node <$> blockFields .empty steps
    | _, _, _ =>
      if properties.anchor.isSome || properties.tag.isSome then return .ofScalar properties true ""
      else failure

/-- A node, unless one of the tokens comes next that show it is left out. -/
def nodeUnless (tokens : List Token) (block unindented : Bool) : Nat → Reader Node
  | 0 => failure
  | steps + 1 => do
    if ← sees tokens then return .null else node block unindented steps

def blockItems (items : List Node) : Nat → Reader (List Node)
  | 0 => failure
  | steps + 1 => do
    match ← peek with
    | some .blockEnd => skip; return items
    | some .blockItem =>
      skip
      let item ← nodeUnless [.blockItem, .blockEnd] true false steps
      blockItems (items ++ [item]) steps
    | _ => failure

def unindentedItems (items : List Node) : Nat → Reader (List Node)
  | 0 => failure
  | steps + 1 => do
    if ← sees [.blockItem] then
      skip
      let item ← nodeUnless [.blockItem, .key, .value, .blockEnd] true false steps
      unindentedItems (items ++ [item]) steps
    else return items

def blockFields (fields : Fields) : Nat → Reader Fields
  | 0 => failure
  | steps + 1 => do
    match ← peek with
    | some .blockEnd => skip; return fields
    | some .key =>
      skip
      let key ← nodeUnless [.key, .value, .blockEnd] true true steps
      let value ← blockValue steps
      blockFields (← fields.addPair? key value) steps
    | some .value =>
      let value ← blockValue steps
      blockFields (← fields.addPair? .null value) steps
    | _ => failure

def blockValue : Nat → Reader Node
  | 0 => failure
  | steps + 1 => do
    if ← sees [.value] then
      skip
      nodeUnless [.key, .value, .blockEnd] true true steps
    else return .null

/-- The items of a flow sequence. A key and a value among them make a mapping
of one field. -/
def flowItems (first : Bool) (items : List Node) : Nat → Reader (List Node)
  | 0 => failure
  | steps + 1 => do
    if ← sees [.flowSequenceEnd] then
      skip
      return items
    else
      if !first then expect .comma
      match ← peek with
      | some .flowSequenceEnd => skip; return items
      | some .key =>
        skip
        let key ← nodeUnless [.value, .comma, .flowSequenceEnd] false false steps
        let value ← flowValue steps
        flowItems false (items ++ [(← Fields.empty.addPair? key value).node]) steps
      | some .value =>
        let value ← flowValue steps
        flowItems false (items ++ [(← Fields.empty.addPair? .null value).node]) steps
      | _ =>
        let item ← node false false steps
        flowItems false (items ++ [item]) steps

def flowFields (first : Bool) (fields : Fields) : Nat → Reader Fields
  | 0 => failure
  | steps + 1 => do
    if ← sees [.flowMappingEnd] then
      skip
      return fields
    else
      if !first then expect .comma
      match ← peek with
      | some .flowMappingEnd => skip; return fields
      | some .key =>
        skip
        let key ← nodeUnless [.value, .comma, .flowMappingEnd] false false steps
        let value ← flowValue steps
        flowFields false (← fields.addPair? key value) steps
      | some .value =>
        let value ← flowValue steps
        flowFields false (← fields.addPair? .null value) steps
      | _ =>
        let key ← node false false steps
        flowFields false (← fields.addPair? key .null) steps

def flowValue : Nat → Reader Node
  | 0 => failure
  | steps + 1 => do
    if ← sees [.value] then
      skip
      nodeUnless [.comma, .flowMappingEnd, .flowSequenceEnd] false false steps
    else return .null

end

/-- Skips the marks that end a document. -/
def skipEnds : Reader Unit :=
  modify fun r => { r with tokens := r.tokens.dropWhile (· == .documentEnd) }

/-- The directives in front of a document. The version is given at most once.
Each directive makes those in front of it forgotten. -/
def directives (versioned : Bool) : List Token → Reader Unit
  | .directive .version :: rest => do
    if versioned then failure
    modify fun r => { r with tokens := rest, handles := [] }
    directives true rest
  | .directive (.handle name start) :: rest => do
    modify fun r => { r with tokens := rest, handles := [(name, start)] }
    directives versioned rest
  | .directive .reserved :: rest => do
    modify fun r => { r with tokens := rest, handles := [] }
    directives versioned rest
  | _ => return

/-- Whether a token starts a document that may have directives. -/
def isExplicit : Token → Bool
  | .directive _ | .documentStart => true
  | _ => false

/-- The node of the only document; `none` if there is no document. -/
def document (steps : Nat) : Reader (Option Node) := do
  skipEnds
  match ← peek with
  | none => return none
  | some token =>
    let root ←
      if isExplicit token then do
        directives false (← get).tokens
        expect .documentStart
        match ← peek with
        | none | some .documentEnd => pure .null
        | some token => if isExplicit token then pure .null else node true false steps
      else node true false steps
    skipEnds
    if (← peek).isNone then return some root else failure

end Reader

/-! ### Settings -/

/-- The name of a field: a text, or the text of a truth value or number. -/
def Node.fieldName? : Node → Option String
  | .text s => some s
  | .fraction s => some s
  | .whole n => some (toString n)
  | .bool b => some (if b then "true" else "false")
  | _ => none

/-- Sets the field of a name. -/
def setField (name : String) (value : Setting) (fields : List (String × Setting)) :
    List (String × Setting) :=
  fields.filter (·.1 != name) ++ [(name, value)]

mutual

def Node.toSetting? : Node → Option Setting
  | .invalid | .null => some .null
  | .bool b => some (.bool b)
  | .whole n => some (.whole n)
  | .fraction s =>
    (decimal? s.toList).map fun (negative, digits, exponent) =>
      .float (.ofDecimal negative digits exponent)
  | .text s => some (.text s)
  | .sequence items => (Node.toSettings? items).map .list
  | .mapping fields => (Node.toEntries? [] fields).map .table

def Node.toSettings? : List Node → Option (List Setting)
  | [] => some []
  | node :: nodes => do return (← node.toSetting?) :: (← Node.toSettings? nodes)

/-- The fields of a mapping behind those that are read; the last of one name
counts. -/
def Node.toEntries? (read : List (String × Setting)) :
    List (Node × Node) → Option (List (String × Setting))
  | [] => some read
  | (key, value) :: fields => do
    Node.toEntries? (setField (← key.fieldName?) (← value.toSetting?) read) fields

end

/-- The entries of a text whose document is a mapping; a text without a
document has none. -/
def entries? (text : String) : Option (List (String × Setting)) := do
  let tokens ← tokens? text
  let (root, _) ← (Reader.document (4 * tokens.length + 4)).run ⟨tokens, #[], []⟩
  match root with
  | none => some []
  | some root =>
    match ← root.toSetting? with
    | .table fields => some fields
    | _ => none

end NodeSieve.Document.Yaml
