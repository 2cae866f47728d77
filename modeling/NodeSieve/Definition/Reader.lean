import NodeSieve.Definition.Group
import NodeSieve.Definition.Mismatch
import NodeSieve.Definition.Tree
import NodeSieve.Unicode.Blank

/-!
# Reading definitions

```
text        = blanks [filter] blanks
filter      = ("and" | "or") "{" filter ("," filter)* "}"
            | field "(" [sign] group ("," group)* ")"
            | "Type" "(" [sign] (group | bare) ("," (group | bare))* ")"
            | "Folder" "(" ")"
group       = "'" content "'"
```

Blanks may stand between any two of these words. Combinators may enclose one
another to a limit, so the reader descends on the number of levels that are
left. Lists are read with the length of the text as a bound on their length:
every item is at least one character long, so the bound is reached only at the
end of the text, where the item would be missing anyway.
-/

namespace NodeSieve.Definition

open NodeSieve.Unicode

/-- What is read, and what is left of the text; or where it goes wrong. -/
abbrev Read (α : Type) := Except Mismatch (α × List Char)

/-- The characters of names. -/
def isNameChar (c : Char) : Bool :=
  c.isAlphanum || c == '_'

/-- The name in front of a text, which may be empty, and what is behind it. -/
def readName (cs : List Char) : List Char × List Char :=
  (cs.takeWhile isNameChar, cs.dropWhile isNameChar)

/-- The characters of a type's name that stands without quotes. -/
def isBare (c : Char) : Bool :=
  !isBlank c && c != ',' && c != '(' && c != ')' && c != '\x7b' && c != '\x7d' && c != '\''

/-- What is left behind a symbol. -/
def expectSymbol (symbol : Char) (cs : List Char) : Except Mismatch (List Char) :=
  match dropBlanks cs with
  | [] => .error ⟨[], .symbol symbol, .next⟩
  | c :: rest => if c = symbol then .ok rest else .error ⟨c :: rest, .symbol symbol, .next⟩

/-- The sign in front of a text; without one, the sign is `+`. -/
def readSign (cs : List Char) : Sign × List Char :=
  match dropBlanks cs with
  | [] => (.include, [])
  | c :: rest =>
    match Sign.ofSymbol? c with
    | some sign => (sign, rest)
    | none => (.include, c :: rest)

/-- The patterns of a quoted group, without the blanks around them; `opening`
is the text from the opening quote on and `cs` the text behind it. -/
def readGroup (owner : String) (opening cs : List Char) : Read (List (List Char)) :=
  match readQuoted? cs with
  | none => .error ⟨opening, .closingQuote, .endOfInput⟩
  | some (content, rest) =>
    let patterns := (splitPatterns content).map trimBlanks
    if [] ∈ patterns then .error ⟨opening, .nonEmptyPatterns owner, .emptyPattern⟩
    else .ok (patterns, rest)

/-- What is wrong where an argument is missing: the first one is asked for in
other words. -/
def missingArgument (owner : String) (first : Bool) (cs : List Char) : Mismatch :=
  ⟨cs, if first then .patterns owner else .pattern, .next⟩

/-- One argument of a predicate, as the texts that it adds. -/
def readArgument (owner : String) (allowBare first : Bool) (cs : List Char) :
    Read (List (List Char)) :=
  match dropBlanks cs with
  | [] => .error (missingArgument owner first [])
  | c :: rest =>
    if c = '\'' then readGroup owner (c :: rest) rest
    else if allowBare && isBare c then
      .ok ([(c :: rest).takeWhile isBare], (c :: rest).dropWhile isBare)
    else .error (missingArgument owner first (c :: rest))

/-- The arguments of a predicate up to and including the closing parenthesis. -/
def readArguments (owner : String) (allowBare : Bool) :
    Nat → Bool → List Char → Read (List (List Char))
  | 0, first, cs => .error (missingArgument owner first cs)
  | bound + 1, first, cs =>
    match readArgument owner allowBare first cs with
    | .error e => .error e
    | .ok (texts, rest) =>
      match dropBlanks rest with
      | ',' :: rest =>
        (readArguments owner allowBare bound false rest).map fun (more, rest) =>
          (texts ++ more, rest)
      | ')' :: rest => .ok (texts, rest)
      | rest => .error ⟨rest, .argumentSeparator, .next⟩

/-- A sign and the arguments behind it, from the opening parenthesis to the
closing one. -/
def readTest (owner : String) (allowBare : Bool) (cs : List Char) :
    Read (Sign × List (List Char)) :=
  match expectSymbol '(' cs with
  | .error e => .error e
  | .ok rest =>
    match readSign rest with
    | (sign, rest) =>
      (readArguments owner allowBare rest.length true rest).map fun (texts, rest) =>
        ((sign, texts), rest)

/-- The filters of a combinator up to and including the closing brace; `child`
reads one. -/
def readSiblings (child : List Char → Read Definition) :
    Nat → List Char → Read (List Definition)
  | 0, cs => .error ⟨cs, .filter, .next⟩
  | bound + 1, cs =>
    match child cs with
    | .error e => .error e
    | .ok (d, rest) =>
      match dropBlanks rest with
      | ',' :: rest =>
        (readSiblings child bound rest).map fun (ds, rest) => (d :: ds, rest)
      | '\x7d' :: rest => .ok ([d], rest)
      | rest => .error ⟨rest, .childSeparator, .next⟩

/-- The filters of a combinator, from the opening brace to the closing one. -/
def readChildren (child : List Char → Read Definition) (cs : List Char) :
    Read (List Definition) :=
  match expectSymbol '\x7b' cs with
  | .error e => .error e
  | .ok rest =>
    match dropBlanks rest with
    | '\x7d' :: rest => .error ⟨'\x7d' :: rest, .children, .next⟩
    | rest => readSiblings child rest.length rest

/-- The parentheses of a test without arguments. -/
def readNoArguments (cs : List Char) : Read Unit :=
  match expectSymbol '(' cs with
  | .error e => .error e
  | .ok rest =>
    match dropBlanks rest with
    | ')' :: rest => .ok ((), rest)
    | rest => .error ⟨rest, .noArguments, .next⟩

/-- A test by its name. -/
def readTestNamed (name start rest : List Char) : Read Definition :=
  match String.ofList name with
  | "" => .error ⟨start, .filter, .next⟩
  | "Type" => (readTest "Type" true rest).map fun (test, rest) => (.type test.1 test.2, rest)
  | "Folder" => (readNoArguments rest).map fun (_, rest) => (.folder, rest)
  | label =>
    match Field.ofLabel? label with
    | some f =>
      (readTest f.label false rest).map fun (test, rest) => (.field f test.1 test.2, rest)
    | none => .error ⟨start, .predicate, .name name⟩

/-- A filter in which at most `levels` combinators enclose one another, where
the whole definition may have `limit` levels. -/
def readFilter (limit : Nat) : Nat → List Char → Read Definition
  | levels, cs =>
    let start := dropBlanks cs
    match readName start with
    | (['a', 'n', 'd'], rest) =>
      match levels with
      | 0 => .error ⟨start, .nesting limit, .deeperNesting⟩
      | levels + 1 =>
        (readChildren (readFilter limit levels) rest).map fun (ds, rest) => (.all ds, rest)
    | (['o', 'r'], rest) =>
      match levels with
      | 0 => .error ⟨start, .nesting limit, .deeperNesting⟩
      | levels + 1 =>
        (readChildren (readFilter limit levels) rest).map fun (ds, rest) => (.any ds, rest)
    | (name, rest) => readTestNamed name start rest

/-- The definition that a text spells; a blank text spells none. -/
def read (limit : Nat) (source : List Char) : Except Mismatch (Option Definition) :=
  match dropBlanks source with
  | [] => .ok none
  | start =>
    match readFilter limit limit start with
    | .error e => .error e
    | .ok (d, rest) =>
      match dropBlanks rest with
      | [] => .ok (some d)
      | rest => .error ⟨rest, .endOfInput, .next⟩

end NodeSieve.Definition
