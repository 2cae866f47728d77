import NodeSieve.Regex.ClassSet
import NodeSieve.Regex.Expr

/-!
# From spelling to meaning

A directive changes the flags for what follows it up to the end of its group,
across the bars of the group as well; a group with flags of its own changes
them for its inside. So the flags are passed along as the tree is read from
left to right, and what is wrong first in that order is reported.
-/

namespace NodeSieve.Regex

open NodeSieve.Unicode

/-- The condition that an assertion stands for. -/
def Modes.look (modes : Modes) : Assertion → Look
  | .lineStart => if modes.multiLine then .lineStart modes.crlf else .textStart
  | .lineEnd => if modes.multiLine then .lineEnd modes.crlf else .textEnd
  | .textStart => .textStart
  | .textEnd => .textEnd
  | .wordBoundary => .word .boundary (!modes.unicode)
  | .notWordBoundary => .word .notBoundary (!modes.unicode)
  | .wordStart => .word .start (!modes.unicode)
  | .wordEnd => .word .stop (!modes.unicode)
  | .wordStartHalf => .word .startHalf (!modes.unicode)
  | .wordEndHalf => .word .stopHalf (!modes.unicode)

/-- The characters that a dot matches: all, or all that end no line. -/
def Modes.dot (modes : Modes) : Except Error CharSet :=
  if !modes.unicode then .error .invalidUtf8
  else if modes.dotMatchesAll then .ok .full
  else if modes.crlf then .ok (CharSet.compl ⟨[intervalOf '\n' '\n', intervalOf '\r' '\r']⟩)
  else .ok (CharSet.compl ⟨[intervalOf '\n' '\n']⟩)

/-- The characters that a literal matches: itself, and its case variants where
case is ignored. -/
def Modes.literal (modes : Modes) (l : Literal) : Except Error CharSet :=
  if modes.unicode then
    if modes.ignoreCase then .ok ((caseOrbit? l.char).getD (.singleton l.char))
    else .ok (.singleton l.char)
  else if l.isByte && l.char.toNat > 0x7F then .error .invalidUtf8
  else if modes.ignoreCase then .ok (CharSet.singleton l.char).foldAsciiCase
  else .ok (.singleton l.char)

/-- The flags inside a group. -/
def Modes.inside (modes : Modes) : GroupKind → Modes
  | .capture => modes
  | .flags change => modes.change change

/-- The expression of a group, given that of its inside. -/
def GroupKind.expr (body : Expr) : GroupKind → Expr
  | .capture => .capture body
  | .flags _ => body

/-- The expression of a class. -/
def exprOfClass (modes : Modes) (set : Except Error CharSet) : Except Error (Expr × Modes) :=
  set.map fun s => (.oneOf s, modes)

mutual

/-- What a tree means under the flags in force before it, and the flags in
force behind it. -/
def Ast.resolve (modes : Modes) : Ast → Except Error (Expr × Modes)
  | .empty => .ok (.empty, modes)
  | .flags change => .ok (.empty, modes.change change)
  | .literal l => exprOfClass modes (modes.literal l)
  | .dot => exprOfClass modes modes.dot
  | .assertion a => .ok (.look (modes.look a), modes)
  | .property negated query => exprOfClass modes (modes.propertyClass negated query)
  | .letter negated kind => exprOfClass modes (modes.letterClass negated kind)
  | .bracketed negated set =>
    match set.resolve modes with
    | .error e => .error e
    | .ok s => exprOfClass modes (modes.foldAndNegate negated s)
  | .repetition least most lazy body =>
    (body.resolve modes).map fun read =>
      (.repeated least most (lazy == modes.swapGreed) read.1, read.2)
  | .group kind body =>
    (body.resolve (modes.inside kind)).map fun read => (kind.expr read.1, modes)
  | .alternation branches =>
    (Ast.resolveAll modes branches).map fun read => (.alternation read.1, read.2)
  | .concat parts => (Ast.resolveAll modes parts).map fun read => (.concat read.1, read.2)

/-- What the trees of a list mean, one behind the other. -/
def Ast.resolveAll (modes : Modes) : List Ast → Except Error (List Expr × Modes)
  | [] => .ok ([], modes)
  | a :: as =>
    match a.resolve modes with
    | .error e => .error e
    | .ok (r, modes) => (Ast.resolveAll modes as).map fun read => (r :: read.1, read.2)

end

end NodeSieve.Regex
