import NodeSieve.Document.Setting

/-!
# Keys as paths

The keys of a configuration file may reach into tables and lists:
`pattern.size_limit` is the field of a table, `type_rules[0]` the first item of
a list, whose index has 64 bits. What a path leads through is created where it
is missing. A key that does not spell a path names a field as it is.
-/

namespace NodeSieve.Document

inductive PathStep where
  | field (name : String)
  | item (index : Int)

structure SettingPath where
  root : String
  steps : List PathStep

def isPathChar (c : Char) : Bool :=
  c.isAlphanum || c == '_' || c == '-'

/-- The name in front, which is not empty, and what is behind it. -/
def pathName? (cs : List Char) : Option (String × List Char) :=
  match cs.takeWhile isPathChar with
  | [] => none
  | name => some (String.ofList name, cs.dropWhile isPathChar)

/-- The index that a text between brackets spells, which may have blanks around
it. -/
def pathIndex? (cs : List Char) : Option Int := do
  let isBlank (c : Char) : Bool := c == ' ' || c == '\t'
  let trimmed := ((cs.dropWhile isBlank).reverse.dropWhile isBlank).reverse
  let (negative, n) ← Text.signedNumeral? 10 ['-'] trimmed
  int64? negative n

/-- The steps that a text spells. Each is at least two characters long, so as
many rounds as there are characters are enough. -/
def pathSteps? : Nat → List Char → Option (List PathStep)
  | _, [] => some []
  | rounds + 1, '.' :: rest => do
    let (name, rest) ← pathName? rest
    let steps ← pathSteps? rounds rest
    return .field name :: steps
  | rounds + 1, '[' :: rest =>
    match rest.takeWhile (· != ']'), rest.dropWhile (· != ']') with
    | index, _ :: rest => do
      let index ← pathIndex? index
      let steps ← pathSteps? rounds rest
      return .item index :: steps
    | _, [] => none
  | _, _ => none

/-- The path that a key spells, or the key as a name. -/
def SettingPath.ofKey (key : String) : SettingPath :=
  let path : Option SettingPath := do
    let (root, rest) ← pathName? key.toList
    let steps ← pathSteps? rest.length rest
    return ⟨root, steps⟩
  path.getD ⟨key, []⟩

namespace Setting

def fields : Setting → List (String × Setting)
  | .table fields => fields
  | _ => []

def items : Setting → List Setting
  | .list items => items
  | _ => []

end Setting

/-- Changes the field of a name; one that is missing is null before. -/
def updateField (name : String) (f : Setting → Setting) :
    List (String × Setting) → List (String × Setting)
  | [] => [(name, f .null)]
  | (n, s) :: fields =>
    if n = name then (n, f s) :: fields else (n, s) :: updateField name f fields

/-- Changes the item of an index, which counts from the end if it is negative.
The list grows by nulls, at its end or at its front, until it has that item. -/
def updateItem (index : Int) (f : Setting → Setting) (items : List Setting) : List Setting :=
  if 0 ≤ index then
    let missing := index.toNat + 1 - items.length
    (items ++ List.replicate missing Setting.null).modify index.toNat f
  else
    let missing := (-index).toNat - items.length
    let items := List.replicate missing Setting.null ++ items
    items.modify (items.length - (-index).toNat) f

/-- Changes what is at the end of a path. -/
def Setting.updateAt (f : Setting → Setting) : List PathStep → Setting → Setting
  | [], s => f s
  | .field name :: steps, s => .table (updateField name (Setting.updateAt f steps) s.fields)
  | .item index :: steps, s => .list (updateItem index (Setting.updateAt f steps) s.items)

mutual

/-- Sets a value: a table is merged into the table that is there, anything else
replaces it. -/
def Setting.mergeInto : Setting → Setting → Setting
  | .table fields, .null => Setting.mergeFields fields (.table [])
  | .table fields, s => Setting.mergeFields fields s
  | value, _ => value

def Setting.mergeFields : List (String × Setting) → Setting → Setting
  | [], s => s
  | (name, value) :: fields, s =>
    Setting.mergeFields fields (.table (updateField name (Setting.mergeInto value) s.fields))

end

/-- The table of a file's entries, each set where its key leads. -/
def Setting.ofEntries (entries : List (String × Setting)) : Setting :=
  entries.foldl (fun s (key, value) =>
    let path := SettingPath.ofKey key
    s.updateAt (Setting.mergeInto value) (.field path.root :: path.steps)) (.table [])

end NodeSieve.Document
