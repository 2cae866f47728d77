import NodeSieve.Document.Json

/-!
# Records in documents

A record is written as an object, whose fields may come in any order and among
fields that the record does not know, or as an array of its fields in their
order, from which fields may be missing at the end. A field of the record that
is given twice makes an object unreadable.
-/

namespace NodeSieve.Document

/-- The values of a field in an object. -/
def fieldValues (fields : List (String × Json)) (name : String) : List Json :=
  fields.filterMap fun field => if field.1 == name then some field.2 else none

/-- The value of a field that is given at most once; the outer `none` is for a
repeated one. -/
def uniqueField? (fields : List (String × Json)) (name : String) : Option (Option Json) :=
  match fieldValues fields name with
  | [] => some none
  | [j] => some (some j)
  | _ => none

/-- The fields of a record with the given names, in their order; `none` for one
that is missing. -/
def Json.record? (names : List String) : Json → Option (List (Option Json))
  | .object fields => names.mapM (uniqueField? fields)
  | .array items =>
    if items.length ≤ names.length then
      some (items.map some ++ List.replicate (names.length - items.length) none)
    else none
  | _ => none

/-- A field that has to be there. -/
def required {α β : Type} (read : β → Option α) : Option β → Option α
  | none => none
  | some v => read v

/-- A field that has a value of its own where it is missing. -/
def orElse {α β : Type} (value : α) (read : β → Option α) : Option β → Option α
  | none => some value
  | some v => read v

/-! ### Scalars -/

def Json.bool? : Json → Option Bool
  | .bool b => some b
  | _ => none

def Json.string? : Json → Option String
  | .string s => some s
  | _ => none

/-- A text, or `null` for none. -/
def Json.optionalString? : Json → Option (Option String)
  | .null => some none
  | .string s => some (some s)
  | _ => none

/-- A number that is written as a whole number without a sign and fits in 64
bits. -/
def Json.uint64? : Json → Option UInt64
  | .number (.whole false n) => if n < UInt64.size then some (UInt64.ofNat n) else none
  | _ => none

def Json.strings? : Json → Option (List String)
  | .array items => items.mapM Json.string?
  | _ => none

def Json.ofUInt64 (n : UInt64) : Json :=
  .nat n.toNat

def Json.ofOptional : Option String → Json
  | none => .null
  | some s => .string s

/-! ### Fields of one name -/

/-- The fields of an object where the last of one name counts. -/
def lastFields (fields : List (String × Json)) : List (String × Json) :=
  fields.foldl (fun kept field => kept.filter (·.1 != field.1) ++ [field]) []

mutual

/-- A document in which no object has two fields of one name: the last one
counts. -/
def Json.lastWins : Json → Json
  | .array items => .array (Json.lastWinsAll items)
  | .object fields => .object (lastFields (Json.lastWinsFields fields))
  | j => j

def Json.lastWinsAll : List Json → List Json
  | [] => []
  | j :: js => j.lastWins :: Json.lastWinsAll js

def Json.lastWinsFields : List (String × Json) → List (String × Json)
  | [] => []
  | (name, j) :: fields => (name, j.lastWins) :: Json.lastWinsFields fields

end

end NodeSieve.Document
