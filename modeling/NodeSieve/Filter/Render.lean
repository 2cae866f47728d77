import NodeSieve.Filter.Tree

/-!
# The canonical text of a filter

Every sign is written, every test has one quoted group, and nothing is set off
by blanks. A type's name is the only text that has to be escaped: patterns come
from a definition and carry the escapes they need.
-/

namespace NodeSieve.Filter

/-- A type's name inside quotes. -/
def escapeTag (tag : List Char) : List Char :=
  tag.flatMap fun c => if c = '\\' ∨ c = '\'' ∨ c = ',' then ['\\', c] else [c]

/-- The texts with a comma between any two. -/
def joinWithCommas : List (List Char) → List Char
  | [] => []
  | [x] => x
  | x :: xs => x ++ ',' :: joinWithCommas xs

/-- A test with one quoted group. -/
def renderTest (label : String) (sign : Sign) (content : List Char) : List Char :=
  label.toList ++ '(' :: sign.symbol :: '\'' :: content ++ ['\'', ')']

def renderLeaf (sign : Sign) (patterns : List Pattern) : Predicate → List Char
  | .genericType tag => renderTest "Type" sign (escapeTag tag.toList)
  | .field f =>
    renderTest f.label sign (joinWithCommas (patterns.map fun p => p.source.toList))

mutual

/-- The canonical text of a filter. -/
def renderChars : Filter → List Char
  | .acceptAll => []
  | .all children => ['a', 'n', 'd', '\x7b'] ++ renderChildren children ++ ['\x7d']
  | .any children => ['o', 'r', '\x7b'] ++ renderChildren children ++ ['\x7d']
  | .leaf predicate sign patterns => renderLeaf sign patterns predicate
  | .folder => ['F', 'o', 'l', 'd', 'e', 'r', '(', ')']

def renderChildren : List Filter → List Char
  | [] => []
  | [x] => renderChars x
  | x :: xs => renderChars x ++ ',' :: renderChildren xs

end

def render (f : Filter) : String :=
  String.ofList f.renderChars

end NodeSieve.Filter
