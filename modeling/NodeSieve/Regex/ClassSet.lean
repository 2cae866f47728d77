import NodeSieve.Regex.Ast
import NodeSieve.Regex.Error
import NodeSieve.Unicode.CaseOrbit

/-!
# The characters of a class

Which characters a class stands for depends on two flags. Where case is
ignored, a class holds every case variant of its members, and it is negated
after that. Where Unicode is switched off, a class is made of ASCII characters:
anything else in it, and the negation of anything, could match part of a
character's encoding and is refused.
-/

namespace NodeSieve.Regex

open NodeSieve.Unicode

/-- The flags that decide what the parts of a pattern mean. -/
structure Modes where
  ignoreCase : Bool
  multiLine : Bool
  dotMatchesAll : Bool
  swapGreed : Bool
  unicode : Bool
  crlf : Bool
deriving DecidableEq, Repr

/-- The flags in force at the start of a pattern. -/
def Modes.start (ignoreCase : Bool) : Modes :=
  ⟨ignoreCase, false, false, false, true, false⟩

def Modes.change (modes : Modes) (change : FlagChange) : Modes where
  ignoreCase := change.apply .ignoreCase modes.ignoreCase
  multiLine := change.apply .multiLine modes.multiLine
  dotMatchesAll := change.apply .dotMatchesAll modes.dotMatchesAll
  swapGreed := change.apply .swapGreed modes.swapGreed
  unicode := change.apply .unicode modes.unicode
  crlf := change.apply .crlf modes.crlf

/-- The interval between two characters. -/
def intervalOf (first last : Char) : Interval :=
  ⟨first.toNat, last.toNat⟩

/-- The members of a named class of ASCII characters. -/
def AsciiClass.set : AsciiClass → CharSet
  | .alnum => ⟨[intervalOf '0' '9', intervalOf 'A' 'Z', intervalOf 'a' 'z']⟩
  | .alpha => ⟨[intervalOf 'A' 'Z', intervalOf 'a' 'z']⟩
  | .ascii => ⟨[intervalOf '\x00' '\x7f']⟩
  | .blank => ⟨[intervalOf '\t' '\t', intervalOf ' ' ' ']⟩
  | .cntrl => ⟨[intervalOf '\x00' '\x1f', intervalOf '\x7f' '\x7f']⟩
  | .digit => ⟨[intervalOf '0' '9']⟩
  | .graph => ⟨[intervalOf '!' '~']⟩
  | .lower => ⟨[intervalOf 'a' 'z']⟩
  | .print => ⟨[intervalOf ' ' '~']⟩
  | .punct => ⟨[intervalOf '!' '/', intervalOf ':' '@', intervalOf '[' '\x60',
      intervalOf '\x7b' '~']⟩
  | .space => ⟨[intervalOf '\t' '\r', intervalOf ' ' ' ']⟩
  | .upper => ⟨[intervalOf 'A' 'Z']⟩
  | .word => ⟨[intervalOf '0' '9', intervalOf 'A' 'Z', intervalOf '_' '_', intervalOf 'a' 'z']⟩
  | .xdigit => ⟨[intervalOf '0' '9', intervalOf 'A' 'F', intervalOf 'a' 'f']⟩

/-- The members of an escaped letter's class. -/
def LetterClass.set (unicode : Bool) : LetterClass → CharSet
  | .digit => if unicode then digitSet else AsciiClass.digit.set
  | .space => if unicode then blankSet else AsciiClass.space.set
  | .word => if unicode then wordSet else AsciiClass.word.set

/-- With the case variants of its members, where case is ignored. -/
def Modes.fold (modes : Modes) (set : CharSet) : CharSet :=
  if !modes.ignoreCase then set
  else if modes.unicode then set.foldCase
  else set.foldAsciiCase

/-- A set that is refused unless Unicode is on or all of it is ASCII. -/
def Modes.permit (modes : Modes) (set : CharSet) : Except Error CharSet :=
  if modes.unicode || set.isAscii then .ok set else .error .invalidUtf8

/-- The case variants first, and the negation after that. -/
def Modes.foldAndNegate (modes : Modes) (negated : Bool) (set : CharSet) : Except Error CharSet :=
  let folded := modes.fold set
  modes.permit (if negated then folded.compl else folded)

/-- The class of an escaped letter, which is closed under case already. -/
def Modes.letterClass (modes : Modes) (negated : Bool) (kind : LetterClass) :
    Except Error CharSet :=
  let set := kind.set modes.unicode
  modes.permit (if negated then set.compl else set)

/-- The class of a Unicode property. -/
def Modes.propertyClass (modes : Modes) (negated : Bool) (query : PropertyQuery) :
    Except Error CharSet :=
  if !modes.unicode then .error .unicodeNotAllowed
  else
    match query.resolve with
    | .error .unknownProperty => .error .propertyNotFound
    | .error .unknownValue => .error .propertyValueNotFound
    | .ok set => modes.foldAndNegate negated set

/-- The code point that a character adds to a class. -/
def Modes.classPoint (modes : Modes) (l : Literal) : Except Error Nat :=
  if modes.unicode || l.char.toNat ≤ 0x7F then .ok l.char.toNat
  else if l.isByte then .error .invalidUtf8
  else .error .unicodeNotAllowed

/-- The meaning of an operator. -/
def ClassOp.apply : ClassOp → CharSet → CharSet → CharSet
  | .intersection, s, t => s.inter t
  | .difference, s, t => s.diff t
  | .symmetricDifference, s, t => s.symmDiff t

mutual

/-- What an item adds to its class. -/
def ClassItem.resolve (modes : Modes) : ClassItem → Except Error CharSet
  | .empty => .ok .empty
  | .literal l => (modes.classPoint l).map fun point => ⟨[⟨point, point⟩]⟩
  | .range first last =>
    match modes.classPoint first with
    | .error e => .error e
    | .ok lo => (modes.classPoint last).map fun hi => ⟨[⟨lo, hi⟩]⟩
  | .ascii negated kind => modes.foldAndNegate negated kind.set
  | .property negated query => modes.propertyClass negated query
  | .letter negated kind => modes.letterClass negated kind
  | .bracketed negated set =>
    match set.resolve modes with
    | .error e => .error e
    | .ok s => modes.foldAndNegate negated s
  | .union items => ClassItem.resolveAll modes items

def ClassItem.resolveAll (modes : Modes) : List ClassItem → Except Error CharSet
  | [] => .ok .empty
  | i :: is =>
    match i.resolve modes with
    | .error e => .error e
    | .ok s => (ClassItem.resolveAll modes is).map fun t => t.union s

/-- The members of a class before its own negation. -/
def ClassSet.resolve (modes : Modes) : ClassSet → Except Error CharSet
  | .item i => i.resolve modes
  | .op kind left right =>
    match left.resolve modes with
    | .error e => .error e
    | .ok s => (right.resolve modes).map fun t => kind.apply (modes.fold s) (modes.fold t)

end

end NodeSieve.Regex
