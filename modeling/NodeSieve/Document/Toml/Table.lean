import NodeSieve.Document.Setting

/-!
# Tables of TOML

Each table is defined in one place: by a header, by dotted keys inside one
table, or in braces. A table that headers only lead through may still be
defined by a header of its own. So a table that is being read remembers how it
came about, and what would define anything twice is refused.
-/

namespace NodeSieve.Document.Toml

/-- How a table came about: a header leads through it, dotted keys do, or a
header defines it. -/
inductive TableOrigin where
  | path
  | dotted
  | header
deriving DecidableEq, Repr

/-- An entry of a table: a finished value, a table, or the tables of one header
in double brackets, latest first. -/
inductive TomlEntry where
  | value (s : Setting)
  | table (origin : TableOrigin) (entries : List (String × TomlEntry))
  | tables (latest : List (String × TomlEntry)) (earlier : List (List (String × TomlEntry)))

structure TomlTable where
  origin : TableOrigin
  entries : List (String × TomlEntry)

namespace TomlTable

/-- Replaces the entry of a name, or adds it at the end. -/
def put (name : String) (entry : TomlEntry) (t : TomlTable) : TomlTable :=
  if t.entries.any (·.1 == name) then
    { t with entries := t.entries.map fun e => if e.1 == name then (name, entry) else e }
  else { t with entries := t.entries ++ [(name, entry)] }

/-- Changes the table at the end of a path. Tables on the way are created where
they are missing, a header's tables are entered at the latest, and dotted keys
do not reach into a table that a header defines. -/
def modifyAt (dotted : Bool) (f : TomlTable → Option TomlTable) :
    List String → TomlTable → Option TomlTable
  | [], t => f t
  | name :: path, t =>
    match t.entries.lookup name with
    | none => do
      let sub ← modifyAt dotted f path ⟨if dotted then .dotted else .path, []⟩
      return t.put name (.table sub.origin sub.entries)
    | some (.table origin entries) =>
      if dotted && origin == .header then none
      else do
        let sub ← modifyAt dotted f path ⟨origin, entries⟩
        return t.put name (.table sub.origin sub.entries)
    | some (.tables latest earlier) => do
      let sub ← modifyAt dotted f path ⟨.header, latest⟩
      return t.put name (.tables sub.entries earlier)
    | some (.value _) => none

/-- Adds an entry to the table at hand. A plain key belongs to a table that
dotted keys did not make, a dotted key to one that they did. -/
def insert? (path : List String) (name : String) (value : Setting) (t : TomlTable) :
    Option TomlTable :=
  let add (t : TomlTable) : Option TomlTable :=
    if (t.origin == .dotted) == path.isEmpty then none
    else
      match t.entries.lookup name with
      | some _ => none
      | none => some (t.put name (.value value))
  t.modifyAt true add path

/-- Opens the table of a header. -/
def define? (name : String) (t : TomlTable) : Option TomlTable :=
  match t.entries.lookup name with
  | none => some (t.put name (.table .header []))
  | some (.table .path entries) => some (t.put name (.table .header entries))
  | some _ => none

/-- Opens one more table of a header in double brackets. -/
def append? (name : String) (t : TomlTable) : Option TomlTable :=
  match t.entries.lookup name with
  | none => some (t.put name (.tables [] []))
  | some (.tables latest earlier) => some (t.put name (.tables [] (latest :: earlier)))
  | some _ => none

end TomlTable

mutual

def TomlEntry.toSetting : TomlEntry → Setting
  | .value s => s
  | .table _ entries => .table (settingsOf entries)
  | .tables latest earlier =>
    .list ((Setting.table (settingsOf latest) :: settingsOfAll earlier).reverse)

def settingsOf : List (String × TomlEntry) → List (String × Setting)
  | [] => []
  | (name, entry) :: entries => (name, entry.toSetting) :: settingsOf entries

def settingsOfAll : List (List (String × TomlEntry)) → List Setting
  | [] => []
  | entries :: rest => .table (settingsOf entries) :: settingsOfAll rest

end

end NodeSieve.Document.Toml
