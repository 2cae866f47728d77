import NodeSieve.Unicode.Property

/-!
# Conditions on a place

A condition holds or fails at a place between two characters, either of which
may be missing at an end of the text. It consumes nothing and sees no further
than these two.
-/

namespace NodeSieve.Regex

open NodeSieve.Unicode

/-- The conditions that ask whether the characters around a place are word
characters. -/
inductive WordLook where
  | boundary
  | notBoundary
  | start
  | stop
  | startHalf
  | stopHalf
deriving DecidableEq, Repr

/-- A condition on a place. Lines end in a line feed, or also in a carriage
return if `crlf`, when the pair of both is one end of line. Word characters are
those of all scripts, or of ASCII. -/
inductive Look where
  | textStart
  | textEnd
  | lineStart (crlf : Bool)
  | lineEnd (crlf : Bool)
  | word (kind : WordLook) (ascii : Bool)
deriving DecidableEq, Repr

/-- The word characters of ASCII. -/
def isAsciiWordChar (c : Char) : Bool :=
  c.isAlphanum || c == '_'

def WordLook.holds (before behind : Bool) : WordLook → Bool
  | .boundary => before != behind
  | .notBoundary => before == behind
  | .start => !before && behind
  | .stop => before && !behind
  | .startHalf => !before
  | .stopHalf => !behind

/-- Whether a condition holds between two characters. -/
def Look.holds (before behind : Option Char) : Look → Bool
  | .textStart => before.isNone
  | .textEnd => behind.isNone
  | .lineStart false => before.isNone || before == some '\n'
  | .lineStart true =>
    before.isNone || before == some '\n' || (before == some '\r' && behind != some '\n')
  | .lineEnd false => behind.isNone || behind == some '\n'
  | .lineEnd true =>
    behind.isNone || behind == some '\r' || (behind == some '\n' && before != some '\r')
  | .word kind ascii =>
    let isWord := if ascii then isAsciiWordChar else isWordChar
    kind.holds (before.any isWord) (behind.any isWord)

end NodeSieve.Regex
