import NodeSieve.Regex.Escape
import NodeSieve.Regex.Remainder

/-!
# Bracketed classes

A bracketed class lists characters, ranges and other classes, and may combine
two such lists by `&&`, `--` or `~~`, all three of which bind equally and to
the left. Classes nest, so the reader keeps a frame for every bracket that is
still open.
-/

namespace NodeSieve.Regex

/-- A bracketed class that is still open: what stands to the left of its last
operator, and the items behind that, latest first. -/
structure ClassFrame where
  negated : Bool
  left : Option (ClassSet × ClassOp)
  items : List ClassItem

namespace ClassFrame

def push (frame : ClassFrame) (item : ClassItem) : ClassFrame :=
  { frame with items := item :: frame.items }

/-- All that has been read of a class. -/
def set (frame : ClassFrame) : ClassSet :=
  let right := ClassSet.item (.ofList frame.items.reverse)
  match frame.left with
  | none => right
  | some (left, op) => .op op left right

/-- Puts what has been read to the left of an operator. -/
def operate (frame : ClassFrame) (op : ClassOp) : ClassFrame :=
  { frame with left := some (frame.set, op), items := [] }

end ClassFrame

/-- A named class of ASCII characters, behind its opening bracket. A name that
is not known, or not followed by `:]`, makes the bracket an ordinary one. -/
def readAsciiClass? : List Char → Option (ClassItem × List Char)
  | ':' :: rest =>
    let (negated, rest) := match rest with
      | '^' :: tail => (true, tail)
      | tail => (false, tail)
    match rest.dropWhile (· != ':') with
    | ':' :: ']' :: behind =>
      (AsciiClass.ofName? (String.ofList (rest.takeWhile (· != ':')))).map fun kind =>
        (.ascii negated kind, behind)
    | _ => none
  | _ => none

/-- Hyphens at the start of a class stand for themselves. -/
def readHyphens (verbose : Bool) (items : List ClassItem) (cs : List Char) :
    Except Error (List ClassItem × List Char) :=
  match cs with
  | [] => .error .classUnclosed
  | c :: rest =>
    if c = '-' then
      readHyphens verbose (.literal (.verbatim '-') :: items) (skipTrivia verbose rest)
    else .ok (items, c :: rest)
termination_by cs.length
decreasing_by
  have := skipTrivia_length_le verbose rest
  simp only [List.length_cons]
  omega

/-- Whether a caret negates a class, and what is behind it. -/
def readNegation (verbose : Bool) : List Char → Bool × List Char
  | '^' :: rest => (true, skipTrivia verbose rest)
  | rest => (false, rest)

/-- The start of a class, behind its opening bracket: a caret negates it, and
then hyphens, or else one closing bracket, stand for themselves. -/
def readClassStart (verbose : Bool) (cs : List Char) : Except Error (ClassFrame × List Char) :=
  match readNegation verbose (skipTrivia verbose cs) with
  | (negated, body) =>
    match readHyphens verbose [] body with
    | .error e => .error e
    | .ok ([], ']' :: rest) =>
      match skipTrivia verbose rest with
      | [] => .error .classUnclosed
      | rest => .ok (⟨negated, none, [.literal (.verbatim ']')]⟩, rest)
    | .ok (items, rest) => .ok (⟨negated, none, items⟩, rest)

/-- One character or escape in a class. -/
def readClassPrimitive (verbose : Bool) : List Char → Except Error (Primitive × List Char)
  | [] => .error .classUnclosed
  | '\\' :: rest => readEscape verbose rest
  | c :: rest => .ok (.literal (.verbatim c), rest)

/-- The range between two characters. -/
def rangeOf (first last : Primitive) : Except Error ClassItem :=
  match first.toBoundary with
  | .error e => .error e
  | .ok first =>
    match last.toBoundary with
    | .error e => .error e
    | .ok last =>
      if first.char ≤ last.char then .ok (.range first last) else .error .classRangeInvalid

/-- Whether a character starts the second half of a range: a hyphen does,
unless the class ends behind it or another hyphen follows, which is an
operator. -/
def isRangeMark (verbose : Bool) (c : Char) (behind : List Char) : Bool :=
  c = '-' && peekVisible verbose behind != some ']' && peekVisible verbose behind != some '-'

/-- One item of a class, or a range of two. -/
def readClassItem (verbose : Bool) (cs : List Char) : Except Error (ClassItem × List Char) :=
  match readClassPrimitive verbose cs with
  | .error e => .error e
  | .ok (first, rest) =>
    match skipTrivia verbose rest with
    | [] => .error .classUnclosed
    | c :: tail =>
      if isRangeMark verbose c tail then
        match readClassPrimitive verbose (skipTrivia verbose tail) with
        | .error e => .error e
        | .ok (last, rest) => (rangeOf first last).map fun item => (item, rest)
      else first.toClassItem.map fun item => (item, c :: tail)

/-! ### What is left is no longer -/

theorem readAsciiClass?_length_lt {cs rest : List Char} {item : ClassItem}
    (h : readAsciiClass? cs = some (item, rest)) : rest.length < cs.length := by
  have drop_le (p : Char → Bool) (xs : List Char) : (xs.dropWhile p).length ≤ xs.length :=
    (List.dropWhile_suffix p).length_le
  unfold readAsciiClass? at h
  split at h
  · rename_i tail
    split at h
    rename_i negated body hbody
    have hle : body.length ≤ tail.length := by
      split at hbody <;> simp_all
    split at h
    · rename_i behind hbehind
      have := drop_le (· != ':') body
      rw [hbehind] at this
      simp only [Option.map_eq_some_iff, Prod.mk.injEq] at h
      obtain ⟨_, _, _, rfl⟩ := h
      simp only [List.length_cons] at this ⊢
      omega
    · simp at h
  · simp at h

theorem readHyphens_length_le {verbose : Bool} {items read : List ClassItem} {cs rest : List Char}
    (h : readHyphens verbose items cs = .ok (read, rest)) : rest.length ≤ cs.length := by
  fun_induction readHyphens verbose items cs with
  | case1 => simp at h
  | case2 _ tail ih =>
    have := ih h
    have := skipTrivia_length_le verbose tail
    simp only [List.length_cons]
    omega
  | case3 => simp_all

theorem readNegation_length_le (verbose : Bool) (cs : List Char) :
    (readNegation verbose cs).2.length ≤ cs.length := by
  unfold readNegation
  split
  · rename_i tail
    have := skipTrivia_length_le verbose tail
    simp only [List.length_cons]
    omega
  · exact Nat.le_refl _

theorem readClassStart_length_le {verbose : Bool} {cs rest : List Char} {frame : ClassFrame}
    (h : readClassStart verbose cs = .ok (frame, rest)) : rest.length ≤ cs.length := by
  have hopened := skipTrivia_length_le verbose cs
  have hbody := readNegation_length_le verbose (skipTrivia verbose cs)
  unfold readClassStart at h
  split at h
  rename_i heq
  rw [heq] at hbody
  simp only at hbody
  split at h
  · simp at h
  · rename_i tail hread
    have hrest := readHyphens_length_le hread
    have := skipTrivia_length_le verbose tail
    simp only [List.length_cons] at hrest
    split at h
    · simp at h
    · simp only [Except.ok.injEq, Prod.mk.injEq] at h
      rw [← h.2]
      omega
  · rename_i hread
    have hrest := readHyphens_length_le hread
    simp only [Except.ok.injEq, Prod.mk.injEq] at h
    rw [← h.2]
    omega

theorem readClassPrimitive_length_lt {verbose : Bool} {cs rest : List Char} {p : Primitive}
    (h : readClassPrimitive verbose cs = .ok (p, rest)) : rest.length < cs.length := by
  unfold readClassPrimitive at h
  split at h
  · simp at h
  · have := readEscape_length_le h
    simp only [List.length_cons]
    omega
  · simp_all

theorem readClassItem_length_lt {verbose : Bool} {cs rest : List Char} {item : ClassItem}
    (h : readClassItem verbose cs = .ok (item, rest)) : rest.length < cs.length := by
  unfold readClassItem at h
  split at h
  · simp at h
  · rename_i first rest₁ hfirst
    have hlt := readClassPrimitive_length_lt hfirst
    have hskip := skipTrivia_length_le verbose rest₁
    split at h
    · simp at h
    · rename_i c tail htail
      rw [htail] at hskip
      split at h
      · split at h
        · simp at h
        · rename_i last rest₂ hlast
          have hlt₂ := readClassPrimitive_length_lt hlast
          have := skipTrivia_length_le verbose tail
          simp only [List.length_cons] at hskip
          cases hr : rangeOf first last with
          | error e => simp [hr, Except.map] at h
          | ok i =>
            simp only [hr, Except.map, Except.ok.injEq, Prod.mk.injEq] at h
            rw [← h.2]
            omega
      · cases hi : first.toClassItem with
        | error e => simp [hi, Except.map] at h
        | ok i =>
          simp only [hi, Except.map, Except.ok.injEq, Prod.mk.injEq] at h
          rw [← h.2]
          omega

/-! ### The whole class -/

/-- Reads on in a class whose frame is `frame`, inside the classes of the
frames `outer`; the answer is the outermost class, as its negation and its
inside. The text does not start with what verbose mode skips. -/
def readClassFrom (verbose : Bool) (outer : List ClassFrame) (frame : ClassFrame)
    (cs : List Char) : Except Error ((Bool × ClassSet) × List Char) :=
  match cs with
  | [] => .error .classUnclosed
  | '[' :: rest =>
    match bounded? rest.length (readAsciiClass? rest)
      (fun _ _ h => Nat.le_of_lt (readAsciiClass?_length_lt h)) with
    | some (item, rest') =>
      readClassFrom verbose outer (frame.push item) (skipTrivia verbose rest')
    | none =>
      match bounded rest.length (readClassStart verbose rest)
        (fun _ _ => readClassStart_length_le) with
      | .error e => .error e
      | .ok (inner, rest') =>
        readClassFrom verbose (frame :: outer) inner (skipTrivia verbose rest')
  | ']' :: rest =>
    match outer with
    | [] => .ok ((frame.negated, frame.set), rest)
    | parent :: outer =>
      readClassFrom verbose outer (parent.push (.bracketed frame.negated frame.set))
        (skipTrivia verbose rest)
  | '&' :: '&' :: rest =>
    readClassFrom verbose outer (frame.operate .intersection) (skipTrivia verbose rest)
  | '-' :: '-' :: rest =>
    readClassFrom verbose outer (frame.operate .difference) (skipTrivia verbose rest)
  | '~' :: '~' :: rest =>
    readClassFrom verbose outer (frame.operate .symmetricDifference) (skipTrivia verbose rest)
  | c :: rest =>
    match bounded rest.length (readClassItem verbose (c :: rest))
      (fun _ _ h => Nat.le_of_lt_succ (readClassItem_length_lt h)) with
    | .error e => .error e
    | .ok (item, rest') =>
      readClassFrom verbose outer (frame.push item) (skipTrivia verbose rest')
termination_by cs.length
decreasing_by
  · exact skipTrivia_length_lt verbose rest'.2
  · exact skipTrivia_length_lt verbose rest'.2
  · exact skipTrivia_length_lt verbose (Nat.le_refl _)
  · exact skipTrivia_length_lt verbose (Nat.le_succ _)
  · exact skipTrivia_length_lt verbose (Nat.le_succ _)
  · exact skipTrivia_length_lt verbose (Nat.le_succ _)
  · exact skipTrivia_length_lt verbose rest'.2

/-- A bracketed class, behind its opening bracket. -/
def readClass (verbose : Bool) (cs : List Char) : Except Error ((Bool × ClassSet) × List Char) :=
  match readClassStart verbose cs with
  | .error e => .error e
  | .ok (frame, rest) => readClassFrom verbose [] frame (skipTrivia verbose rest)

theorem readClassFrom_length_lt {verbose : Bool} {outer : List ClassFrame} {frame : ClassFrame}
    {cs rest : List Char} {read : Bool × ClassSet}
    (h : readClassFrom verbose outer frame cs = .ok (read, rest)) : rest.length < cs.length := by
  fun_induction readClassFrom verbose outer frame cs with
  | case1 | case3 | case10 => simp at h
  | case2 _ _ tail _ behind _ ih | case4 _ _ tail _ _ behind _ ih =>
    have := skipTrivia_length_lt verbose behind.2
    exact Nat.lt_trans (ih h) this
  | case5 =>
    simp only [Except.ok.injEq, Prod.mk.injEq] at h
    rw [← h.2]
    exact Nat.lt_succ_self _
  | case6 _ tail _ _ ih | case7 _ _ tail ih | case8 _ _ tail ih | case9 _ _ tail ih =>
    have := skipTrivia_length_lt verbose (Nat.le_refl tail.length)
    have := ih h
    simp only [List.length_cons]
    omega
  | case11 _ _ c tail _ _ _ _ _ _ behind _ ih =>
    have := skipTrivia_length_lt verbose behind.2
    exact Nat.lt_trans (ih h) this

theorem readClass_length_lt {verbose : Bool} {cs rest : List Char} {read : Bool × ClassSet}
    (h : readClass verbose cs = .ok (read, rest)) : rest.length < cs.length := by
  unfold readClass at h
  split at h
  · simp at h
  · rename_i _ tail hstart
    have := readClassStart_length_le hstart
    have := readClassFrom_length_lt h
    have := skipTrivia_length_le verbose tail
    omega

end NodeSieve.Regex
