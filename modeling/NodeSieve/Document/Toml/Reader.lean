import NodeSieve.Document.Toml.Scalar
import NodeSieve.Document.Toml.Table
import NodeSieve.Document.Toml.Text

/-!
# Reading TOML

A document is a sequence of lines: entries `key = value`, headers of tables,
comments. Values in brackets and braces may run over several lines, and are
nested up to a greatest depth.
-/

namespace NodeSieve.Document.Toml

/-! ### Values -/

/-- The rest behind a comment, which holds no control characters. -/
def dropComment? : List Char → Option (List Char)
  | '#' :: rest =>
    let behind := rest.dropWhile (!isControl ·)
    if behind.head?.all isBreak then some behind else none
  | cs => some cs

/-- Drops blanks, line breaks and comments. -/
def dropLayout? (comment : Bool) : List Char → Option (List Char)
  | [] => some []
  | c :: rest =>
    if isBreak c then dropLayout? false rest
    else if comment then if isControl c then none else dropLayout? true rest
    else if isBlank c then dropLayout? false rest
    else if c = '#' then dropLayout? true rest
    else some (c :: rest)

mutual

/-- A value inside so many brackets and braces. No two steps in a row leave all
characters in place, so twice as many steps as there are characters are
enough. -/
def value? (depth : Nat) : Nat → List Char → Option (Setting × List Char)
  | 0, _ => none
  | steps + 1, cs =>
    match cs with
    | '[' :: rest => do
      if depth = maxDepth then failure
      let (items, rest) ← items? (depth + 1) steps (← dropLayout? false rest)
      return (.list items, rest)
    | '\x7b' :: rest => do
      if depth = maxDepth then failure
      let (t, rest) ← fields? (depth + 1) steps ⟨.header, []⟩ (← dropLayout? false rest)
      return (.table (settingsOf t.entries), rest)
    | c :: rest =>
      if c = '"' ∨ c = '\'' then
        (quoted? (c :: rest)).map fun (cs, rest) => (.text (String.ofList cs), rest)
      else
        let (word, rest) := spanScalar (c :: rest)
        (scalar? word).map (·, rest)
    | [] => none

/-- The items of an array up to its closing bracket; a comma may stand behind
the last. -/
def items? (depth : Nat) : Nat → List Char → Option (List Setting × List Char)
  | 0, _ => none
  | steps + 1, cs =>
    match cs with
    | ']' :: rest => some ([], rest)
    | cs => do
      let (item, rest) ← value? depth steps cs
      match ← dropLayout? false rest with
      | ',' :: rest =>
        let (items, rest) ← items? depth steps (← dropLayout? false rest)
        return (item :: items, rest)
      | ']' :: rest => return ([item], rest)
      | _ => none

/-- The entries of a table up to its closing brace; a comma may stand behind
the last. An entry may run over several lines, but its key does not. -/
def fields? (depth : Nat) : Nat → TomlTable → List Char → Option (TomlTable × List Char)
  | 0, _, _ => none
  | steps + 1, t, cs =>
    match cs with
    | '\x7d' :: rest => some (t, rest)
    | cs => do
      let (path, rest) ← keyPath? cs
      match ← dropLayout? false rest with
      | '=' :: rest =>
        let (value, rest) ← value? depth steps (← dropLayout? false rest)
        let t ← t.insert? path.dropLast (path.getLastD "") value
        match ← dropLayout? false rest with
        | ',' :: rest => fields? depth steps t (← dropLayout? false rest)
        | '\x7d' :: rest => return (t, rest)
        | _ => none
      | _ => none

end

/-! ### Lines -/

/-- A document that is being read: its table, and the path of the header that
is in force. -/
structure TomlState where
  root : TomlTable
  header : List String

/-- What is left behind the end of a line. -/
def endLine? (cs : List Char) : Option (List Char) := do
  match ← dropComment? (dropBlanks cs) with
  | [] => some []
  | c :: rest => if isBreak c then some rest else none

/-- An entry of the table in force. -/
def entry? (state : TomlState) (cs : List Char) : Option (TomlState × List Char) := do
  let (path, rest) ← keyPath? cs
  match rest with
  | '=' :: rest =>
    let (value, rest) ← value? 0 (2 * rest.length) (dropBlanks rest)
    let root ← state.root.modifyAt false
      (·.insert? path.dropLast (path.getLastD "") value) state.header
    return ({ state with root }, rest)
  | _ => none

/-- The path of a header with a number of brackets, and what is behind it. -/
def headerPath? (brackets : Nat) (cs : List Char) : Option (List String × List Char) := do
  let (path, rest) ← keyPath? (dropBlanks cs)
  if rest.take brackets = List.replicate brackets ']' then some (path, rest.drop brackets) else none

/-- A line without the blanks in front of it. -/
def line? (state : TomlState) : List Char → Option (TomlState × List Char)
  | [] => some (state, [])
  | '[' :: '[' :: rest => do
    let (path, rest) ← headerPath? 2 rest
    let root ← state.root.modifyAt false (·.append? (path.getLastD "")) path.dropLast
    return (⟨root, path⟩, rest)
  | '[' :: rest => do
    let (path, rest) ← headerPath? 1 rest
    let root ← state.root.modifyAt false (·.define? (path.getLastD "")) path.dropLast
    return (⟨root, path⟩, rest)
  | c :: rest => if c = '#' ∨ isBreak c then some (state, c :: rest) else entry? state (c :: rest)

/-- The lines of a document, of which there are no more than characters. -/
def lines? : Nat → TomlState → List Char → Option TomlTable
  | _, state, [] => some state.root
  | 0, _, _ :: _ => none
  | rounds + 1, state, cs => do
    let (state, rest) ← line? state (dropBlanks cs)
    lines? rounds state (← endLine? rest)

/-- The entries of a document; a byte order mark in front does not count. -/
def read? (text : String) : Option (List (String × Setting)) := do
  let cs ← markBreaks? (match text.toList with
    | '\uFEFF' :: rest => rest
    | cs => cs)
  let root ← lines? cs.length ⟨⟨.header, []⟩, []⟩ cs
  return settingsOf root.entries

end NodeSieve.Document.Toml
