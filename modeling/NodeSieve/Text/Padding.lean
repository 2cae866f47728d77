/-!
# Padding

A text is cut to a greatest number of characters first and then filled with
spaces to a least number. Without an alignment it stands to the left; in the
middle, an odd space goes to the right.
-/

namespace NodeSieve.Text

inductive Align where
  | left
  | center
  | right
deriving DecidableEq, Repr

structure Padding where
  width : Nat
  precision : Option Nat
  align : Align
deriving DecidableEq, Repr

def spaces (n : Nat) : List Char :=
  List.replicate n ' '

/-- A text cut and filled. -/
def Padding.apply (p : Padding) (text : String) : String :=
  let cs := match p.precision with
    | none => text.toList
    | some n => text.toList.take n
  let room := p.width - cs.length
  let before := match p.align with
    | .left => 0
    | .center => room / 2
    | .right => room
  String.ofList (spaces before ++ cs ++ spaces (room - before))

end NodeSieve.Text
