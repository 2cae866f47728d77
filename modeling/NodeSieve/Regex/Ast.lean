import NodeSieve.Unicode.Property

/-!
# Regular expressions as they are written

The tree of a regular expression keeps what its text says and leaves out only
what means nothing: the names of groups and comments. Flags stay in place,
because what a class or a dot stands for depends on the flags in force where it
is read, and that is settled later, in `NodeSieve.Regex.Resolve`.
-/

namespace NodeSieve.Regex

open NodeSieve.Unicode

/-- A switch that a pattern can set for part of itself. -/
inductive Flag where
  | ignoreCase
  | multiLine
  | dotMatchesAll
  | swapGreed
  | unicode
  | crlf
  | verbose
deriving DecidableEq, Repr

/-- The letter of a flag. -/
def Flag.ofLetter? : Char → Option Flag
  | 'i' => some .ignoreCase
  | 'm' => some .multiLine
  | 's' => some .dotMatchesAll
  | 'U' => some .swapGreed
  | 'u' => some .unicode
  | 'R' => some .crlf
  | 'x' => some .verbose
  | _ => none

/-- The flags that a directive sets and those that it clears. -/
structure FlagChange where
  on : List Flag
  off : List Flag
deriving DecidableEq, Repr

/-- What a change leaves of a flag. -/
def FlagChange.apply (change : FlagChange) (flag : Flag) (current : Bool) : Bool :=
  if flag ∈ change.on then true else if flag ∈ change.off then false else current

/-- A condition on a place in the text, as it is written. -/
inductive Assertion where
  | lineStart
  | lineEnd
  | textStart
  | textEnd
  | wordBoundary
  | notWordBoundary
  | wordStart
  | wordEnd
  | wordStartHalf
  | wordEndHalf
deriving DecidableEq, Repr

/-- A class that is one escaped letter. -/
inductive LetterClass where
  | digit
  | space
  | word
deriving DecidableEq, Repr

/-- A class of ASCII characters that has a name in brackets. -/
inductive AsciiClass where
  | alnum
  | alpha
  | ascii
  | blank
  | cntrl
  | digit
  | graph
  | lower
  | print
  | punct
  | space
  | upper
  | word
  | xdigit
deriving DecidableEq, Repr

def AsciiClass.ofName? : String → Option AsciiClass
  | "alnum" => some .alnum
  | "alpha" => some .alpha
  | "ascii" => some .ascii
  | "blank" => some .blank
  | "cntrl" => some .cntrl
  | "digit" => some .digit
  | "graph" => some .graph
  | "lower" => some .lower
  | "print" => some .print
  | "punct" => some .punct
  | "space" => some .space
  | "upper" => some .upper
  | "word" => some .word
  | "xdigit" => some .xdigit
  | _ => none

/-- A character that stands for itself. Written as two hexadecimal digits it
names a byte, which matters where Unicode is switched off. -/
structure Literal where
  char : Char
  isByte : Bool
deriving DecidableEq, Repr

/-- A character that is written as itself. -/
def Literal.verbatim (c : Char) : Literal :=
  ⟨c, false⟩

/-- The operations between classes. -/
inductive ClassOp where
  | intersection
  | difference
  | symmetricDifference
deriving DecidableEq, Repr

mutual

/-- What can stand in a bracketed class. -/
inductive ClassItem where
  | empty
  | literal (l : Literal)
  | range (first last : Literal)
  | ascii (negated : Bool) (kind : AsciiClass)
  | property (negated : Bool) (query : PropertyQuery)
  | letter (negated : Bool) (kind : LetterClass)
  | bracketed (negated : Bool) (set : ClassSet)
  | union (items : List ClassItem)

/-- The inside of a bracketed class. -/
inductive ClassSet where
  | item (i : ClassItem)
  | op (kind : ClassOp) (left right : ClassSet)

end

/-- What a pair of parentheses does besides holding an expression together. -/
inductive GroupKind where
  | capture
  | flags (change : FlagChange)
deriving DecidableEq, Repr

/-- A regular expression as it is written. -/
inductive Ast where
  | empty
  | flags (change : FlagChange)
  | literal (l : Literal)
  | dot
  | assertion (a : Assertion)
  | property (negated : Bool) (query : PropertyQuery)
  | letter (negated : Bool) (kind : LetterClass)
  | bracketed (negated : Bool) (set : ClassSet)
  | repetition (least : Nat) (most : Option Nat) (lazy : Bool) (body : Ast)
  | group (kind : GroupKind) (body : Ast)
  | alternation (branches : List Ast)
  | concat (parts : List Ast)

/-- One item stays itself, and only two or more make a union. -/
def ClassItem.ofList : List ClassItem → ClassItem
  | [] => .empty
  | [i] => i
  | items => .union items

/-- One part stays itself, and only two or more make a sequence. -/
def Ast.ofParts : List Ast → Ast
  | [] => .empty
  | [a] => a
  | parts => .concat parts

/-- One branch stays itself, and only two or more make an alternation. -/
def Ast.ofBranches : List Ast → Ast
  | [] => .empty
  | [a] => a
  | branches => .alternation branches

/-! ### Nesting

A level is anything that holds other expressions or class items together: a
group, a repetition, a sequence or alternation of at least two, a bracketed
class, a union or an operation in a class. -/

mutual

def ClassItem.nesting : ClassItem → Nat
  | .bracketed _ set => set.nesting + 1
  | .union items => ClassItem.nestingAll items + 1
  | _ => 0

def ClassItem.nestingAll : List ClassItem → Nat
  | [] => 0
  | i :: is => max i.nesting (ClassItem.nestingAll is)

def ClassSet.nesting : ClassSet → Nat
  | .item i => i.nesting
  | .op _ left right => max left.nesting right.nesting + 1

end

mutual

/-- How many levels lie on the deepest path into an expression. -/
def Ast.nesting : Ast → Nat
  | .bracketed _ set => set.nesting + 1
  | .repetition _ _ _ body => body.nesting + 1
  | .group _ body => body.nesting + 1
  | .alternation branches => Ast.nestingAll branches + 1
  | .concat parts => Ast.nestingAll parts + 1
  | _ => 0

def Ast.nestingAll : List Ast → Nat
  | [] => 0
  | a :: as => max a.nesting (Ast.nestingAll as)

end

end NodeSieve.Regex
