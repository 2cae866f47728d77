import NodeSieve.Document.Yaml.Scalar
import NodeSieve.Document.Yaml.Tag

/-!
# The tokens of a YAML text

Indentation and line breaks become tokens of their own, so that a reader of
tokens needs no columns. A key of one line is known as a key only when the
colon behind it is seen: the place of its token is kept until then, and the
tokens for the key and for the collection it opens are put in there.
-/

namespace NodeSieve.Document.Yaml

inductive Token where
  | directive (d : Directive)
  | documentStart
  | documentEnd
  | blockSequence
  | blockMapping
  | blockEnd
  | blockItem
  | key
  | value
  | flowSequence
  | flowSequenceEnd
  | flowMapping
  | flowMappingEnd
  | comma
  | anchor (name : String)
  | alias (name : String)
  | tag (t : Tag)
  | scalar (plain : Bool) (text : String)
deriving DecidableEq, Repr

/-- An indentation that a block or an item in it replaces; `isBlock` if a block
has to be ended. -/
structure Indent where
  outer : Int
  isBlock : Bool

/-- A token that may turn out to be a key, by its place in the text and among
the tokens. It is required where only a key can stand. -/
structure Candidate where
  place : Placed
  token : Nat
  required : Bool

inductive FlowKind where
  | sequence
  | mapping
deriving DecidableEq

/-- The state of reading tokens. There is one place for a candidate key in the
text itself and one in each open flow collection, innermost first. -/
structure Scan where
  rest : List Placed
  tokens : Array Token
  indent : Int
  indents : List Indent
  keyAllowed : Bool
  candidate : Option Candidate
  flow : List (FlowKind × Option Candidate)
  adjacent : Option Nat
  properties : Option Nat

namespace Scan

def ofText (text : String) : Scan where
  rest := place text
  tokens := #[]
  indent := -1
  indents := []
  keyAllowed := true
  candidate := none
  flow := []
  adjacent := none
  properties := none

def inFlow (s : Scan) : Bool :=
  !s.flow.isEmpty

def column (s : Scan) : Int :=
  (front s.rest).column

/-- Adds a token; only properties of a node are remembered by their column. -/
def push (token : Token) (s : Scan) : Scan :=
  { s with tokens := s.tokens.push token, properties := none }

def insertAt (index : Nat) (token : Token) (s : Scan) : Scan :=
  { s with tokens := s.tokens.insertIdxIfInBounds index token }

def drop (count : Nat) (s : Scan) : Scan :=
  { s with rest := s.rest.drop count }

/-- Skips the blanks and the comment that are left of the line. -/
def dropBlanks? (s : Scan) : Option Scan :=
  (spanBlanks? true s.rest).map fun (_, rest) => { s with rest }

/-! ### Indentation -/

/-- Opens a block at a column that is deeper than the indentation, at the end
of the tokens or at an index among them. -/
def openBlock (column : Int) (index : Option Nat) (token : Token) (s : Scan) : Scan :=
  if s.inFlow then s
  else
    let s := match s.indents with
      | top :: indents =>
        if s.indent ≤ column && !top.isBlock then { s with indent := top.outer, indents } else s
      | [] => s
    if s.indent < column then
      let s := { s with indents := ⟨s.indent, true⟩ :: s.indents, indent := column }
      match index with
      | some index => s.insertAt index token
      | none => s.push token
    else s

/-- What is inside an item has to be indented by one column more. -/
def indentItem (s : Scan) : Scan :=
  match s.inFlow, s.indents with
  | false, ⟨outer, true⟩ :: indents =>
    { s with indents := ⟨s.indent, false⟩ :: ⟨outer, true⟩ :: indents, indent := s.indent + 1 }
  | _, _ => s

/-- The blocks that are deeper than a column, ended. -/
def endBlocks (column : Int) (tokens : Array Token) (indent : Int) :
    List Indent → Array Token × Int × List Indent
  | [] => (tokens, indent, [])
  | top :: indents =>
    if column < indent then
      endBlocks column (if top.isBlock then tokens.push .blockEnd else tokens) top.outer indents
    else (tokens, indent, top :: indents)

def closeBlocks (column : Int) (s : Scan) : Scan :=
  if s.inFlow then s
  else
    let (tokens, indent, indents) := endBlocks column s.tokens s.indent s.indents
    { s with tokens, indent, indents }

/-- The indentations up to the innermost block, left again. -/
def leaveItems (indent : Int) : List Indent → Int × List Indent
  | [] => (indent, [])
  | top :: indents => if top.isBlock then (indent, top :: indents) else leaveItems top.outer indents

def leaveItem (s : Scan) : Scan :=
  let (indent, indents) := leaveItems s.indent s.indents
  { s with indent, indents }

/-! ### Candidates for keys -/

def current (s : Scan) : Option Candidate :=
  match s.flow with
  | [] => s.candidate
  | (_, candidate) :: _ => candidate

def setCurrent (candidate : Option Candidate) (s : Scan) : Scan :=
  match s.flow with
  | [] => { s with candidate }
  | (kind, _) :: flow => { s with flow := (kind, candidate) :: flow }

/-- Takes the next token for a candidate. -/
def saveCandidate (s : Scan) : Scan :=
  if s.keyAllowed then
    let required := !s.inFlow && s.indent == s.column && (s.indents.head?.any (·.isBlock))
    s.setCurrent (some ⟨front s.rest, s.tokens.size, required⟩)
  else s

/-- Gives a candidate up. -/
def dropCandidate? (s : Scan) : Option Scan :=
  if s.current.any (·.required) then none else some (s.setCurrent none)

/-- Outside flow collections a key ends on its line, after no more than 1024
characters. -/
def dropStale? (s : Scan) : Option Scan :=
  let here := front s.rest
  let stale (c : Candidate) : Bool := c.place.line < here.line || c.place.index + 1024 < here.index
  if !s.inFlow && s.candidate.any stale then s.dropCandidate? else some s

/-! ### Layout -/

/-- Skips blanks, line breaks and comments; answers also whether a line break
was among them. A tab does not indent a line of a block, unless the line is
empty. -/
def dropLayout? (inBlock : Bool) (indent : Int) (comment broken : Bool) :
    List Placed → Option (Bool × List Placed)
  | [] => some (broken, [])
  | p :: rest =>
    if p.char = '\n' then dropLayout? inBlock indent false true rest
    else if isEnd p.char then some (broken, p :: rest)
    else if comment then dropLayout? inBlock indent true broken rest
    else if isBlank p.char then
      if p.char = '\t' ∧ inBlock ∧ p.isLeading ∧ p.column < indent ∧ !lineIsEmpty (p :: rest) then
        none
      else dropLayout? inBlock indent false broken rest
    else if p.char = '#' then dropLayout? inBlock indent true broken rest
    else some (broken, p :: rest)

/-- Goes on to the next token. On a new line a key may stand again. -/
def toNext? (s : Scan) : Option Scan := do
  let (broken, rest) ← dropLayout? (!s.indents.isEmpty) s.indent false false s.rest
  return { s with rest, keyAllowed := s.keyAllowed || (broken && !s.inFlow) }

/-! ### Tokens -/

/-- Ends all blocks in front of a mark of a document or a directive. -/
def atMargin? (s : Scan) : Option Scan := do
  let s ← (s.closeBlocks (-1)).dropCandidate?
  return { s with keyAllowed := false }

def directive? (s : Scan) : Option Scan := do
  let s ← s.atMargin?
  let (directive, rest) ← readDirective? (s.rest.drop 1)
  return { s with rest }.push (.directive directive)

def documentStart? (s : Scan) : Option Scan := do
  return ((← s.atMargin?).drop 3).push .documentStart

def documentEnd? (s : Scan) : Option Scan := do
  let s ← (((← s.atMargin?).drop 3).push .documentEnd).dropBlanks?
  if isBreakOrEnd (charAt 0 s.rest) then some s else none

/-- The largest number of flow collections inside one another. -/
def maxFlow : Nat := 255

def openFlow? (kind : FlowKind) (token : Token) (s : Scan) : Option Scan := do
  let s := s.saveCandidate.indentItem
  if maxFlow ≤ s.flow.length then none
  else
    let s ← ({ s with flow := (kind, none) :: s.flow, keyAllowed := true }.drop 1).dropBlanks?
    return s.push token

def closeFlow? (token : Token) (s : Scan) : Option Scan := do
  let s ← s.dropCandidate?
  let s := { s with flow := s.flow.tail, keyAllowed := false }.drop 1
  let s ← s.dropBlanks?
  let adjacent := if s.inFlow then some (front s.rest).index else s.adjacent
  return { s with adjacent }.push token

def comma? (s : Scan) : Option Scan := do
  let s ← s.dropCandidate?
  let s ← ({ s with keyAllowed := true }.drop 1).dropBlanks?
  return s.push .comma

/-- A dash in front of an item. A dash at the margin does not follow properties
of a node there. -/
def blockItem? (s : Scan) : Option Scan := do
  if s.inFlow || !s.keyAllowed then none
  else if s.column == 0 && s.properties == some 0 && -1 < s.indent then none
  else
    let s := (s.openBlock s.column none .blockSequence).drop 1
    let (blanks, rest) ← spanBlanks? true s.rest
    if blanks.contains '\t' && charAt 0 rest == '-' && isGap (charAt 1 rest) then none
    else
      let s := { s with rest }
      let c := charAt 0 rest
      let s := if c == '\n' || isFlow c then s.indentItem else s
      let s ← s.dropCandidate?
      return { s with keyAllowed := true }.push .blockItem

/-- A question mark in front of a key. Spaces, line breaks and comments may
stand between the two, but the key does not follow at once, and no tab comes
first. -/
def explicitKey? (s : Scan) : Option Scan := do
  if !s.inFlow && !s.keyAllowed then none
  else
    let s ← (s.openBlock s.column none .blockMapping).dropCandidate?
    let s := { s with keyAllowed := !s.inFlow }.drop 1
    let rest := dropSpaces false s.rest
    if isEnd (charAt 0 s.rest) || charAt 0 s.rest == '\t' || charAt 0 rest == '\t' then none
    else some ({ s with rest }.push .key)

/-- Whether a tab alone parts a colon from a dash or a word. -/
def tabbed (cs : List Placed) : Bool :=
  let blanks := cs.takeWhile (isBlank ·.char)
  let c := charAt 0 (cs.dropWhile (isBlank ·.char))
  charAt 0 cs == '\t' && !blanks.any (·.char == ' ') && (c == '-' || c == '_' || c.isAlphanum)

/-- A colon, which makes a key of the candidate in front of it. -/
def value? (s : Scan) : Option Scan := do
  let here := front s.rest
  let candidate := s.current
  let s := s.drop 1
  if tabbed s.rest then none
  else
    match candidate with
    | some key =>
      let alone := s.flow.head?.any (·.1 == .sequence)
      if alone && key.place.line < here.line then none
      else
        let s := s.insertAt key.token .key
        let s := (s.openBlock key.place.column (some key.token) .blockMapping).indentItem
        return ({ s with keyAllowed := false }.setCurrent none).push .value
    | none =>
      if !s.inFlow && !s.keyAllowed then none
      else
        let s := (s.openBlock here.column none .blockMapping).indentItem
        return { s with keyAllowed := !s.inFlow }.push .value

def isAnchorChar (c : Char) : Bool :=
  !isGap c && !isFlow c && c != '\uFEFF'

/-- The name behind an ampersand or asterisk. -/
def named? (token : String → Token) (s : Scan) : Option Scan :=
  let column := (front s.rest).column
  let s := ({ s.saveCandidate with keyAllowed := false }).drop 1
  match s.rest.takeWhile (isAnchorChar ·.char) with
  | [] => none
  | name =>
    let s := (s.drop name.length).push (token (String.ofList (name.map Placed.char)))
    some { s with properties := some column }

/-- The tag behind an exclamation mark. It is parted from what is behind it. -/
def tag? (s : Scan) : Option Scan := do
  let column := (front s.rest).column
  let s := { s.saveCandidate with keyAllowed := false }
  let (tag, rest) ← readTag? (s.rest.drop 1)
  if isGap (charAt 0 rest) || (s.inFlow && isFlow (charAt 0 rest)) then
    return { ({ s with rest }.push (.tag tag)) with properties := some column }
  else none

def block? (literal : Bool) (s : Scan) : Option Scan := do
  let s := { s.saveCandidate with keyAllowed := true }.leaveItem
  let (text, rest) ← blockText? literal s.indent (s.rest.drop 1)
  return { s with rest }.push (.scalar false (String.ofList text))

/-- A quoted scalar. On its line only what may follow a node stands behind
it. -/
def quoted? (quote : Char) (s : Scan) : Option Scan := do
  let here := front s.rest
  let s := { s.saveCandidate with keyAllowed := false }
  let (text, rest) ← quotedText? quote s.indent [] .none 0 (s.rest.drop 1)
  let (_, rest) ← spanBlanks? true rest
  let c := charAt 0 rest
  let fits := isBreakOrEnd c ||
    (if s.inFlow then c == ',' || c == ']' || c == '\x7d' || c == ':'
      else c == ':' && here.line == (front rest).line)
  if !fits then none
  else
    let s ← { s with rest }.toNext?
    let s := { s with adjacent := some (front s.rest).index }
    return s.push (.scalar false (String.ofList text))

/-- A plain scalar. Behind it a key may stand if it ends with its line. -/
def plain? (s : Scan) : Option Scan := do
  let s := { s.saveCandidate with keyAllowed := false }.leaveItem
  let indent := s.indent + 1
  if s.inFlow && s.column < indent then none
  else
    let (text, rest) ← plainText? s.inFlow indent [] none false s.rest
    if text.isEmpty then none
    else
      let s := { s with rest, keyAllowed := (front rest).isLeading }
      return s.push (.scalar true (String.ofList text))

/-- Whether a colon stands right behind a key that is quoted or a flow
collection. -/
def isAdjacent (s : Scan) : Bool :=
  s.inFlow && s.adjacent == some (front s.rest).index

/-- The token at hand. Only a colon that is adjacent may stand right before a
flow collection. -/
def token? (s : Scan) : Option Scan :=
  let c := charAt 0 s.rest
  let next := charAt 1 s.rest
  let isColon := isGap next || (s.inFlow && isFlow next) || s.isAdjacent
  let opensFlow := s.inFlow && (next == '[' || next == '\x7b')
  if s.column = 0 ∧ c = '%' then s.directive?
  else if isDocumentMark '-' s.rest then s.documentStart?
  else if isDocumentMark '.' s.rest then s.documentEnd?
  else if s.column < s.indent then none
  else
    match c with
    | '[' => s.openFlow? .sequence .flowSequence
    | '\x7b' => s.openFlow? .mapping .flowMapping
    | ']' => s.closeFlow? .flowSequenceEnd
    | '\x7d' => s.closeFlow? .flowMappingEnd
    | ',' => s.comma?
    | '*' => s.named? .alias
    | '&' => s.named? .anchor
    | '!' => s.tag?
    | '\'' => s.quoted? '\''
    | '"' => s.quoted? '"'
    | '%' | '@' | '\x60' => none
    | c =>
      if c = '-' ∧ isGap next then s.blockItem?
      else if c = '?' ∧ isGap next then s.explicitKey?
      else if c = ':' ∧ isColon then
        if opensFlow && !s.isAdjacent then none else s.value?
      else if c = '|' ∧ !s.inFlow then s.block? true
      else if c = '>' ∧ !s.inFlow then s.block? false
      else s.plain?

/-- The end of the text, where all blocks end. -/
def finish? (s : Scan) : Option (Array Token) := do
  let required := s.candidate.any (·.required) || s.flow.any fun (_, c) => c.any (·.required)
  if required then none else some (s.closeBlocks (-1)).tokens

/-- All tokens. Each takes at least one character, so as many rounds as there
are characters are enough. -/
def tokens? : Nat → Scan → Option (Array Token)
  | 0, _ => none
  | rounds + 1, s => do
    let s ← (← s.toNext?).dropStale?
    let s := s.closeBlocks s.column
    if isEnd (charAt 0 s.rest) then s.finish? else tokens? rounds (← s.token?)

end Scan

/-- The tokens of a text. -/
def tokens? (text : String) : Option (List Token) :=
  let s := Scan.ofText text
  (s.tokens? (s.rest.length + 1)).map Array.toList

end NodeSieve.Document.Yaml
