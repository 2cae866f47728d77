import NodeSieve.Regex.Compile

/-!
# Patterns

A pattern is the text of a regular expression together with what it means. Two
patterns are the same if their texts are; what the options made of the text
does not enter into it.
-/

namespace NodeSieve

structure PatternOptions where
  caseInsensitive : Bool
  sizeLimit : UInt64
deriving DecidableEq, Repr

/-- Case counts, and a pattern's program may take a mebibyte. -/
def PatternOptions.default : PatternOptions :=
  ⟨false, 1048576⟩

structure Pattern where
  source : String
  term : Regex.Term
deriving DecidableEq, Repr

instance : BEq Pattern where
  beq p q := p.source == q.source

namespace Pattern

def ofChars (options : PatternOptions) (source : List Char) : Except Regex.Error Pattern :=
  (Regex.compile options.caseInsensitive options.sizeLimit.toNat source).map fun term =>
    ⟨String.ofList source, term⟩

/-- The pattern that a text spells. -/
def compile (options : PatternOptions) (source : String) : Except Regex.Error Pattern :=
  ofChars options source.toList

/-- A character as a pattern for itself. Quotes and commas mean nothing in a
pattern, but they do in the definition around it. -/
def escapeChar (c : Char) : List Char :=
  if Regex.isMeta c || c == '\'' || c == ',' then ['\\', c] else [c]

/-- The text of the pattern that matches one text only. -/
def literalSource (text : List Char) : List Char :=
  '^' :: text.flatMap escapeChar ++ ['$']

/-- The pattern that matches one text only. -/
def literal (options : PatternOptions) (text : List Char) : Except Regex.Error Pattern :=
  ofChars options (literalSource text)

def isMatch (p : Pattern) (subject : String) : Bool :=
  p.term.isMatch subject.toList

end Pattern

end NodeSieve
