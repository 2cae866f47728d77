import NodeSieve.Document.Record
import NodeSieve.Document.Setting

/-!
# JSON documents as settings

Whole numbers that fit in 64 bits with a sign stay whole, all others become
floating-point numbers. Of such a number only the leading digits below `2 ^ 64`
count; they are scaled by the power of ten as a floating-point number, with a
rounding of their own, and a number too large for that is refused.
-/

namespace NodeSieve.Document

namespace JsonNumber

/-- Writes digits behind a number as long as it stays below `2 ^ 64`; answers
how many are left out as well. -/
def appendDigits (n : Nat) : List Char → Nat × Nat
  | [] => (n, 0)
  | c :: cs =>
    let longer := n * 10 + (c.toNat - '0'.toNat)
    if longer < UInt64.size then appendDigits longer cs else (n, cs.length + 1)

/-- The digits of a number that count, and the exponent that goes with them.
Digits before the point that are left out raise the exponent, which does not
keep those behind it from being written. -/
def leadingDigits (digits places : Nat) (exponent : Int) : Nat × Int :=
  let (before, fraction) := digitRuns digits places
  let (n, left) := appendDigits 0 before
  let (n, unused) := appendDigits n fraction
  (n, exponent + left + unused)

/-- The largest power of ten that is finite. -/
def maxPower : Nat := 308

/-- Scales a number by a power of ten, through at most `rounds` greatest
powers. -/
def scale? (x : Binary64) : Nat → Int → Option Binary64
  | 0, _ => none
  | rounds + 1, exponent =>
    let power := Binary64.ofDecimal false 1 (min exponent.natAbs maxPower : Nat)
    if 0 ≤ exponent then
      let y := x.mulMagnitude power
      if y.isInfinite || (maxPower < exponent && !x.isZero) then none else some y
    else
      let y := x.divMagnitude power
      if -maxPower ≤ exponent || y.isZero then some y
      else scale? y rounds (exponent + maxPower)

/-- A number as a floating-point number. Three of the greatest powers bring any
leading digits down to zero. -/
def float? (negative : Bool) (digits places : Nat) (exponent : Int) : Option Setting :=
  let (digits, exponent) := leadingDigits digits places exponent
  match scale? (.ofRatio false digits 1) 4 exponent with
  | some (.finite _ mantissa exponent) => some (.float (.finite negative mantissa exponent))
  | _ => none

/-- A whole number stays whole if it fits in 64 bits with a sign; a negative
zero does not. -/
def toSetting? : JsonNumber → Option Setting
  | .whole negative n =>
    match negative && n == 0, int64? negative n with
    | false, some n => some (.whole n)
    | _, _ => float? negative n 0 0
  | .decimal negative digits places exponent => float? negative digits places exponent

end JsonNumber

mutual

/-- A document in which no object has two fields of one name as a setting. -/
def Json.toSetting? : Json → Option Setting
  | .null => some .null
  | .bool b => some (.bool b)
  | .number n => n.toSetting?
  | .string s => some (.text s)
  | .unreadable => none
  | .array items => (Json.toSettings? items).map .list
  | .object fields => (Json.toEntries? fields).map .table

def Json.toSettings? : List Json → Option (List Setting)
  | [] => some []
  | j :: js => do return (← j.toSetting?) :: (← Json.toSettings? js)

def Json.toEntries? : List (String × Json) → Option (List (String × Setting))
  | [] => some []
  | (name, j) :: fields => do return (name, ← j.toSetting?) :: (← Json.toEntries? fields)

end

/-- The entries of a JSON text, which has to be an object. All of it has to be
readable, also what a later field of the same name replaces. -/
def Json.entries? (text : String) : Option (List (String × Setting)) := do
  let j ← Json.parse? 127 text
  let _ ← j.toSetting?
  match ← j.lastWins.toSetting? with
  | .table fields => some fields
  | _ => none

end NodeSieve.Document
