/-!
# Why a regular expression is refused

One constructor for each cause, and one function with their wording.
-/

namespace NodeSieve.Regex

/-- Why a regular expression is refused. -/
inductive Error where
  | groupUnclosed
  | groupUnopened
  | classUnclosed
  | classRangeInvalid
  | classRangeBoundary
  | classEscapeInvalid
  | repetitionMissing
  | repetitionCountEmpty
  | repetitionUnclosed
  | repetitionCountInvalid
  | decimalInvalid
  | escapeUnfinished
  | escapeUnrecognized
  | flagUnrecognized
  | flagDuplicate
  | flagDanglingNegation
  | flagRepeatedNegation
  | flagUnfinished
  | backreference
  | lookAround
  | groupNameEmpty
  | groupNameInvalid
  | groupNameUnclosed
  | groupNameDuplicate
  | hexEmpty
  | hexInvalidDigit
  | hexInvalid
  | propertyInvalid
  | propertyNotFound
  | propertyValueNotFound
  | unicodeNotAllowed
  | invalidUtf8
  | wordBoundaryUnrecognized
  | wordBoundaryUnclosed
  | wordBoundaryUnfinished
  | nestingTooDeep (limit : Nat)
  | programTooLarge (limit : Nat)
deriving DecidableEq, Repr

/-- The wording of each cause: the closing line of a diagnostic. The excerpt
from the pattern that stands in front of it, with the place marked below, is
left out. -/
def Error.message : Error → String
  | .groupUnclosed => "unclosed group"
  | .groupUnopened => "unopened group"
  | .classUnclosed => "unclosed character class"
  | .classRangeInvalid => "invalid character class range, the start must be <= the end"
  | .classRangeBoundary => "invalid range boundary, must be a literal"
  | .classEscapeInvalid => "invalid escape sequence found in character class"
  | .repetitionMissing => "repetition operator missing expression"
  | .repetitionCountEmpty => "repetition quantifier expects a valid decimal"
  | .repetitionUnclosed => "unclosed counted repetition"
  | .repetitionCountInvalid => "invalid repetition count range, the start must be <= the end"
  | .decimalInvalid => "decimal literal invalid"
  | .escapeUnfinished => "incomplete escape sequence, reached end of pattern prematurely"
  | .escapeUnrecognized => "unrecognized escape sequence"
  | .flagUnrecognized => "unrecognized flag"
  | .flagDuplicate => "duplicate flag"
  | .flagDanglingNegation => "dangling flag negation operator"
  | .flagRepeatedNegation => "flag negation operator repeated"
  | .flagUnfinished => "expected flag but got end of regex"
  | .backreference => "backreferences are not supported"
  | .lookAround => "look-around, including look-ahead and look-behind, is not supported"
  | .groupNameEmpty => "empty capture group name"
  | .groupNameInvalid => "invalid capture group character"
  | .groupNameUnclosed => "unclosed capture group name"
  | .groupNameDuplicate => "duplicate capture group name"
  | .hexEmpty => "hexadecimal literal empty"
  | .hexInvalidDigit => "invalid hexadecimal digit"
  | .hexInvalid => "hexadecimal literal is not a Unicode scalar value"
  | .propertyInvalid => "invalid Unicode character class"
  | .propertyNotFound => "Unicode property not found"
  | .propertyValueNotFound => "Unicode property value not found"
  | .unicodeNotAllowed => "Unicode not allowed here"
  | .invalidUtf8 => "pattern can match invalid UTF-8"
  | .wordBoundaryUnrecognized =>
    "unrecognized special word boundary assertion, valid choices are: start, end, start-half or " ++
      "end-half"
  | .wordBoundaryUnclosed =>
    "special word boundary assertion is either unclosed or contains an invalid character"
  | .wordBoundaryUnfinished =>
    "found either the beginning of a special word boundary or a bounded repetition on a \\b " ++
      "with an opening brace, but no closing brace"
  | .nestingTooDeep limit =>
    s!"exceed the maximum number of nested parentheses/brackets ({limit})"
  | .programTooLarge limit => s!"Compiled regex exceeds size limit of {limit} bytes."

end NodeSieve.Regex
