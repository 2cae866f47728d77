/-!
# Signs

A test with `+` holds when something matches; with `-` it holds when nothing
does.
-/

namespace NodeSieve

inductive Sign where
  | include
  | exclude
deriving DecidableEq, Repr, Inhabited

namespace Sign

def ofSymbol? : Char → Option Sign
  | '+' => some .include
  | '-' => some .exclude
  | _ => none

def symbol : Sign → Char
  | .include => '+'
  | .exclude => '-'

/-- The other sign. -/
def flip : Sign → Sign
  | .include => .exclude
  | .exclude => .include

/-- What a sign makes of the answer to whether anything matches. -/
def apply (sign : Sign) (anyMatch : Bool) : Bool :=
  match sign with
  | .include => anyMatch
  | .exclude => !anyMatch

@[simp] theorem ofSymbol?_symbol (sign : Sign) : ofSymbol? sign.symbol = some sign := by
  cases sign <;> rfl

theorem symbol_of_ofSymbol? {c : Char} {sign : Sign} (h : ofSymbol? c = some sign) :
    sign.symbol = c := by
  unfold ofSymbol? at h
  split at h <;> cases h <;> rfl

@[simp] theorem apply_flip (sign : Sign) (b : Bool) : sign.flip.apply b = !sign.apply b := by
  cases sign <;> simp [flip, apply]

end Sign

end NodeSieve
