import NodeSieve.Number.Shortest
import NodeSieve.Text.Numeral

/-!
# Settings

What a configuration file says, whatever format it is written in. Formats
differ in what they can tell apart, so a setting is read leniently: a number
may stand for a text, a word for a truth value.
-/

namespace NodeSieve.Document

inductive Setting where
  | null
  | bool (b : Bool)
  | whole (n : Int)
  | float (x : Binary64)
  | text (s : String)
  | list (items : List Setting)
  | table (fields : List (String × Setting))
deriving Repr, Inhabited

/-- A number under its sign, if it fits in 64 bits. -/
def int64? (negative : Bool) (magnitude : Nat) : Option Int :=
  let n : Int := if negative then -magnitude else magnitude
  if Int64.minValue.toInt ≤ n ∧ n ≤ Int64.maxValue.toInt then some n else none

namespace Setting

/-- Words for a truth value, in any case. -/
def word? (s : String) : Option Bool :=
  match s.toList.map Char.toLower |> String.ofList with
  | "true" | "on" | "yes" => some true
  | "false" | "off" | "no" => some false
  | _ => none

/-- A text, or the text of a truth value or number. -/
def string? : Setting → Option String
  | .text s => some s
  | .bool b => some (if b then "true" else "false")
  | .whole n => some (toString n)
  | .float x => some x.render
  | _ => none

/-- A truth value, a number that is zero or not, or a word or digit for one. -/
def bool? : Setting → Option Bool
  | .bool b => some b
  | .whole n => some (n != 0)
  | .float x => some !x.isZero
  | .text "1" => some true
  | .text "0" => some false
  | .text s => word? s
  | _ => none

/-- A count of 64 bits: a whole number that fits, a fraction rounded to the
nearest count, a truth value as one or zero, or a numeral or word. -/
def uint64? : Setting → Option UInt64
  | .whole n => if 0 ≤ n ∧ n < UInt64.size then some (UInt64.ofNat n.toNat) else none
  | .float x => some (UInt64.ofNat (x.roundClamped (UInt64.size - 1)))
  | .bool b => some (if b then 1 else 0)
  | .text s =>
    match word? s with
    | some b => some (if b then 1 else 0)
    | none =>
      match Text.signedNumeral? 10 ['+'] s.toList with
      | some (_, n) => if n < UInt64.size then some (UInt64.ofNat n) else none
      | none => none
  | _ => none

/-- The fields of a record with the given names: those of a table, or the items
of a list in their order. What the record does not know is left out. -/
def record? (names : List String) : Setting → Option (List (Option Setting))
  | .table fields => some (names.map fun name => fields.lookup name)
  | .list items =>
    some ((items.take names.length).map some ++ List.replicate (names.length - items.length) none)
  | _ => none

def list? : Setting → Option (List Setting)
  | .list items => some items
  | _ => none

end Setting

end NodeSieve.Document
