import NodeSieve.Document.Yaml.Place
import NodeSieve.Text.Numeral

/-!
# Tags and directives of YAML

A tag is a suffix behind a handle: an exclamation mark for a tag of the
document's own, two of them for a core type, or a name between two of them that
a directive has declared. A tag in angle brackets is spelled out and has no
handle. Directives stand in front of a document; those that are not known mean
nothing.
-/

namespace NodeSieve.Document.Yaml

open NodeSieve.Text

structure Tag where
  handle : String
  suffix : String
deriving DecidableEq, Repr

/-- The prefix of the core types. -/
def corePrefix : String :=
  "tag:yaml.org,2002:"

/-- A line in front of a document: the version of the language, the prefix of a
handle, or anything else. -/
inductive Directive where
  | version
  | handle (name start : String)
  | reserved
deriving DecidableEq, Repr

def isNameChar (c : Char) : Bool :=
  c.isAlphanum || c == '-' || c == '_'

def isUriChar (c : Char) : Bool :=
  isNameChar c || "#;/?:@&=+$,.!~*'()[]%".toList.contains c

def isTagChar (c : Char) : Bool :=
  isUriChar c && !isFlow c && c != '!'

/-! ### Escapes -/

/-- So many bytes, each written as a percent sign and two hexadecimal digits. -/
def escapedBytes? : Nat → List Char → Option (List Nat)
  | 0, _ => some []
  | count + 1, '%' :: a :: b :: rest => do
    let byte ← numeral? 16 [a, b]
    return byte :: (← escapedBytes? count rest)
  | _, _ => none

/-- The number of bytes of a character, by the first of them. -/
def encodedLength? (lead : Nat) : Option Nat :=
  if lead < 0x80 then some 1
  else if 0xC0 ≤ lead ∧ lead < 0xE0 then some 2
  else if 0xE0 ≤ lead ∧ lead < 0xF0 then some 3
  else if 0xF0 ≤ lead ∧ lead < 0xF8 then some 4
  else none

/-- An escaped character, and the length of the escape. The bytes together are
the number of the character. -/
def uriEscape? (cs : List Char) : Option (Char × Nat) := do
  let lead ← (← escapedBytes? 1 cs).head?
  let length ← encodedLength? lead
  let bytes ← escapedBytes? length cs
  if (bytes.drop 1).all fun byte => 0x80 ≤ byte && byte < 0xC0 then
    (charOfPoint? (bytes.foldl (· * 0x100 + ·) 0)).map (·, 3 * length)
  else none

/-- The characters of a kind, from `skip` characters on, and what is behind
them. -/
def uriText? (allowed : Char → Bool) (skip : Nat) :
    List Placed → Option (List Char × List Placed)
  | [] => some ([], [])
  | p :: rest =>
    match skip with
    | skip + 1 => uriText? allowed skip rest
    | 0 => do
      if !allowed p.char then return ([], p :: rest)
      let (c, length) ←
        if p.char = '%' then uriEscape? (((p :: rest).take 12).map Placed.char)
        else some (p.char, 1)
      let (cs, rest) ← uriText? allowed (length - 1) rest
      return (c :: cs, rest)

/-! ### Tags -/

/-- A handle behind its exclamation mark: its name, whether a second mark ends
it, and the rest. -/
def spanHandle (cs : List Placed) : List Char × Bool × List Placed :=
  let name := (cs.takeWhile (isNameChar ·.char)).map Placed.char
  let rest := cs.drop name.length
  if charAt 0 rest = '!' then (name, true, rest.drop 1) else (name, false, rest)

def handleOf (name : List Char) : String :=
  String.ofList ('!' :: name ++ ['!'])

/-- The tag behind an exclamation mark, and what is behind the tag. -/
def readTag? (cs : List Placed) : Option (Tag × List Placed) := do
  if charAt 0 cs = '<' then
    let (uri, rest) ← uriText? isUriChar 0 (cs.drop 1)
    if charAt 0 rest = '>' then return (⟨"", String.ofList uri⟩, rest.drop 1) else failure
  else
    let (name, ended, rest) := spanHandle cs
    let (suffix, rest) ← uriText? isTagChar 0 rest
    match ended, suffix, name ++ suffix with
    | true, [], _ => failure
    | true, suffix, _ => return (⟨handleOf name, String.ofList suffix⟩, rest)
    | false, _, [] => return (⟨"", "!"⟩, rest)
    | false, _, suffix => return (⟨"!", String.ofList suffix⟩, rest)

/-- The name of a core type, or none for a tag of any other kind. The outer
`none` is for a handle that is not declared. -/
def Tag.core? (handles : List (String × String)) (tag : Tag) : Option (Option String) := do
  let start ← match handles.lookup tag.handle with
    | some start => some start
    | none =>
      if tag.handle = "!!" then some corePrefix
      else if tag.handle = "" ∨ tag.handle = "!" then some tag.handle
      else none
  return if start = corePrefix then some tag.suffix else none

/-! ### Directives -/

def dropBlanks (cs : List Placed) : List Placed :=
  cs.dropWhile (isBlank ·.char)

/-- What is behind a number of at most nine digits. -/
def dropNumber? (cs : List Placed) : Option (List Placed) :=
  let digits := cs.takeWhile (·.char.isDigit)
  if digits.isEmpty || 9 < digits.length then none else some (cs.drop digits.length)

/-- What is behind the number of a version. -/
def dropVersion? (cs : List Placed) : Option (List Placed) := do
  let rest ← dropNumber? (dropBlanks cs)
  if charAt 0 rest = '.' then dropNumber? (rest.drop 1) else none

/-- A handle and its prefix. -/
def readHandle? (cs : List Placed) : Option (Directive × List Placed) := do
  let cs := dropBlanks cs
  if charAt 0 cs ≠ '!' then failure
  let (name, ended, rest) := spanHandle (cs.drop 1)
  if !ended && !name.isEmpty then failure
  let rest := dropBlanks rest
  if charAt 0 rest ≠ '!' && !isTagChar (charAt 0 rest) then failure
  let (start, rest) ← uriText? isUriChar 0 rest
  if !isGap (charAt 0 rest) then failure
  return (.handle (if ended then handleOf name else "!") (String.ofList start), rest)

/-- The directive behind a percent sign, which takes the whole line. -/
def readDirective? (cs : List Placed) : Option (Directive × List Placed) := do
  let name := (cs.takeWhile (isNameChar ·.char)).map Placed.char
  let rest := cs.drop name.length
  if name.isEmpty || !isGap (charAt 0 rest) then failure
  let (directive, rest) ← match String.ofList name with
    | "YAML" => (dropVersion? rest).map (Directive.version, ·)
    | "TAG" => readHandle? rest
    | _ => some (.reserved, dropLine rest)
  let (_, rest) ← spanBlanks? true rest
  if isBreakOrEnd (charAt 0 rest) then return (directive, rest) else failure

end NodeSieve.Document.Yaml
