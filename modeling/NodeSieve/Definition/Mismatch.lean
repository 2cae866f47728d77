import NodeSieve.Error
import NodeSieve.Text.Utf8

/-!
# Where a definition goes wrong

Reading stops at the first place where the definition can not go on. The place
is kept as the text that is left there; its position is worked out against the
whole text only when the error is reported.
-/

namespace NodeSieve

/-- What would have to come next. -/
inductive Expected where
  | filter
  | symbol (c : Char)
  | children
  | childSeparator
  | noArguments
  | predicate
  | nesting (limit : Nat)
  | patterns (owner : String)
  | pattern
  | argumentSeparator
  | nonEmptyPatterns (owner : String)
  | closingQuote
  | endOfInput
deriving DecidableEq, Repr

/-- What comes instead: the next character, if there is one, or something that
is no character. -/
inductive Found where
  | next
  | name (name : List Char)
  | deeperNesting
  | emptyPattern
  | endOfInput
deriving DecidableEq, Repr

structure Mismatch where
  rest : List Char
  expected : Expected
  found : Found
deriving DecidableEq, Repr

/-- The predicates that a definition can name. -/
def predicateNames : String :=
  "Name, Path, PrimaryType, ResourceType, MimeType, MixinType, Type or Folder"

def Expected.message : Expected → String
  | .filter => "filter expression"
  | .symbol c => s!"'{c}'"
  | .children => "at least one filter expression"
  | .childSeparator => "',' or '\x7d'"
  | .noArguments => "')', Folder() takes no arguments"
  | .predicate => s!"'and', 'or' or a predicate ({predicateNames})"
  | .nesting limit => s!"at most {limit} nested combinators"
  | .patterns owner => s!"quoted pattern list for {owner}()"
  | .pattern => "quoted pattern"
  | .argumentSeparator => "',' or ')'"
  | .nonEmptyPatterns owner => s!"non-empty pattern list for {owner}()"
  | .closingQuote => "closing quote"
  | .endOfInput => "end of input"

/-- How a place in a definition is described. -/
def describeNext : List Char → String
  | [] => "end of input"
  | c :: _ => s!"'{c}'"

def Found.message (rest : List Char) : Found → String
  | .next => describeNext rest
  | .name cs => s!"'{String.ofList cs}'"
  | .deeperNesting => "deeper nesting"
  | .emptyPattern => "empty pattern"
  | .endOfInput => "end of input"

/-- The error that a mismatch in a definition is reported as. -/
def Mismatch.toError (source : List Char) (m : Mismatch) : FilterError :=
  let position := Text.utf8Length source - Text.utf8Length m.rest
  .parse position m.expected.message (m.found.message m.rest)

end NodeSieve
