import NodeSieve.Unicode.Runs

/-!
# Case orbits

Two characters lie in one orbit when simple case folding sends them to the same
character, as `k`, `K` and the Kelvin sign do. Only orbits with at least two
members are listed.
-/

namespace NodeSieve.Unicode

/-- The orbits, smallest member first: the distance from the smallest member of
the orbit before, the number of further members, and the distance of each from
the member before it. -/
def caseOrbitText : List String := [
  "CnbBgbbBgbbBgbbBgbbBgbbBgbbBgbbBgbbBgbbBgbcBgMKlbbBgbbBgbbBgbbBgbbBgbbBgbbBgbcBgKibbBgbb",
  "BgbbBgbbBgbbBgbbBgbbBgDncBCpBglbBgbbBgbbBgbbBgbbBgbcBgMFubbBgbbBgbbBgbbBgbbBgbbBgbbBgbbB",
  "gbbBgbbBgbbBgbbBgbbBgbbBgbbBgbbBgbbBgcbBgbbBgbbBgbbBgbbBgbbBgbbBgbbLGxBgbErbbbcbbcbbcbbc",
  "bbcbbcbbcbbcbbcbbcbbcbbcbbcbbcbbcbbcbbcbbcbbcbbcbbcbbcbbcbbebbcbbcbbdbbcbbcbbcbbcbbcbbcb",
  "bcbbdbbcbbcbbcbbcbbcbbcbbcbbcbbcbbcbbcbbcbbcbbcbbcbbcbbcbbcbbcbbcbbcbbcbbdbbcbbcbbdbHnbb",
  "IcbbbcbbcbHybbbcbHxbbHxbbbdbDbbbHubbHvbbbcbHxbbHzbbDtbbIdbbIbbbbcbGhbbCKYzbbIdbbIfbbFabb",
  "IgbbbcbbcbbcbIkbbbcbIkdbbcbIkbbbcbIjbbIjbbbcbbcbIlbbbebbdbCefcbbdcbbdcbbdbbcbbcbbcbbcbbc",
  "bbcbbcbbdbbcbbcbbcbbcbbcbbcbbcbbcbbdcbbdbbebbcbbcbbcbbcbbcbbcbbcbbcbbcbbcbbcbbcbbcbbcbbc",
  "bbcbbcbbcbbcbbebbcbbcbbcbbcbbcbbcbbcbbcbbibPZfbbbdbPZcbbPZzbbPZzbbbdbCrbbCtbbbcbbcbbcbbc",
  "bbcbPYtbbPYqbbPYskbCKPrfbCKPndbCKQpbbCKOebbCKPgebCKPgbbPXfbbCKPdfbPXlmbPWpfbCKPffbCKOgwb",
  "CKNlbbCKNiGldDgBgKPxBrbbcbbebbfbFabbFabbFacbEmhbBmcbBlbbBlbbBlcbCmcbClbbClbbKShbbBgbcBgB",
  "ebbBgbbBgbcBgCmbbBgbbBgbdBgzBjccBgCcbbBgcbBgbbBgbbBgbcBgwbcBgBwccBfbbbBgbbBgbcBgpbbBgbbB",
  "gbcBgLDdbbBgbbBgfbKRrBfbijbbcbbcbbcbbcbbcbbcbbcbbcbbcbbcbbcbbebhfbbdbbgbDcbbDcbbDcbbDcbb",
  "DcbbDcbbDcbbDcbbDcbbDcbbDcbbDcbbDcbbDcbbDcbbDcbbBgbbBgbcBgJFibbBgbcBgJFhbbBgbbBgbbBgbbBg",
  "bbBgbbBgbbBgbbBgbbBgbcBgJEybbBgbbBgbcBgJEwbdBgJEwbbbBgbbBgbbBgbbBgbbBgbbBgbbBgbcBgJEqbbB",
  "gbbBgbbBgbbBgbbBgBxbbccbJDscbbcbbcbbcbbcbbcbbcbbcbbcbbcbbcbbcbbcbbcbbcbbkbbcbbcbbcbbcbbc",
  "bbcbbcbbcbbcbbcbbcbbcbbcbbcbbcbbcbbcbbcbbcbbcbbcbbcbbcbbcbbcbbcbbcbpbbbcbbcbbcbbcbbcbbcb",
  "bdbbcbbcbbcbbcbbcbbcbbcbbcbbcbbcbbcbbcbbcbbcbbcbbcbbcbbcbbcbbcbbcbbcbbcbbcbbcbbcbbcbbcbb",
  "cbbcbbcbbcbbcbbcbbcbbcbbcbbcbbcbbcbbcbbcbbcbbcbbcbbcbbcbbdbBwbbBwbbBwbbBwbbBwbbBwbbBwbbB",
  "wbbBwbbBwbbBwbbBwbbBwbbBwbbBwbbBwbbBwbbBwbbBwbbBwbbBwbbBwbbBwbbBwbbBwbbBwbbBwbbBwbbBwbbB",
  "wbbBwbbBwbbBwbbBwbbBwbbBwbbBwbbBwEHebKTkbbKTkbbKTkbbKTkbbKTkbbKTkbbKTkbbKTkbbKTkbbKTkbbK",
  "TkbbKTkbbKTkbbKTkbbKTkbbKTkbbKTkbbKTkbbKTkbbKTkbbKTkbbKTkbbKTkbbKTkbbKTkbbKTkbbKTkbbKTkb",
  "bKTkbbKTkbbKTkbbKTkbbKTkbbKTkbbKTkbbKTkbbKTkbbKTkcbKTkgbKTkdbELsbbELsbbELsbbELsbbELsbbEL",
  "sbbELsbbELsbbELsbbELsbbELsbbELsbbELsbbELsbbELsbbELsbbELsbbELsbbELsbbELsbbELsbbELsbbELsbb",
  "ELsbbELsbbELsbbELsbbELsbbELsbbELsbbELsbbELsbbELsbbELsbbELsbbELsbbELsbbELsbbELsbbELsbbELs",
  "bbELsbbELsdbELsbbELsbbELsZxbCFMubbCFMubbCFMubbCFMubbCFMubbCFMubbCFMubbCFMubbCFMubbCFMubb",
  "CFMubbCFMubbCFMubbCFMubbCFMubbCFMubbCFMubbCFMubbCFMubbCFMubbCFMubbCFMubbCFMubbCFMubbCFMu",
  "bbCFMubbCFMubbCFMubbCFMubbCFMubbCFMubbCFMubbCFMubbCFMubbCFMubbCFMubbCFMubbCFMubbCFMubbCF",
  "MubbCFMubbCFMubbCFMubbCFMubbCFMubbCFMubbCFMubbCFMubbCFMubbCFMubbCFMubbCFMubbCFMubbCFMubb",
  "CFMubbCFMubbCFMubbCFMubbCFMubbCFMubbCFMubbCFMubbCFMubbCFMubbCFMubbCFMubbCFMubbCFMubbCFMu",
  "bbCFMubbCFMubbCFMubbCFMubbCFMubbCFMubbCFMubbCFMubbCFMubbCFMubbCFMubbibbibbibbibbibbiDGlc",
  "CAEkbbbbJgbCAGyebFQsrbCAIyEkbbcbbcbbcbbcbbcbbcbbcbbcbbcbbcbbcbbcbbcbbcbbcbbcbbcbbcbbcbbc",
  "bbcbbcbbcbbcbbcbbcbbcbbcbbcbbcbbcbbcbbcbbcbbcbbcbbcbbcbbcbbcbbcbbcbbcbbcbbcbbcbbcbbccbCg",
  "cbbcbbcbbcbbcbbcbbcbbcbbcbbcbbcbbcbbcbbcbbcbbcbbcbbcbbcbbcbbcbbcbbcbbcbbcbbcbbmbbcbbcbbc",
  "bbcbbcbbcbbcbbcbbcbbcbbcbbcbbcbbcbbcbbcbbcbbcbbcbbcbbcbbcbbcbbcbbcbbcbbcbbcbbcbbcbbcbbcb",
  "bcbbcbbcbbcbbcbbcbbcbbcbbcbbcbbcbbcbbcbbcbbcbbcbibbibbibbibbibbibbibbijbibbibbibbibbibbi",
  "lbibbibbibbibbibbibbibbijbibbibbibbibbibbibbibbijbibbibbibbibbibbimbicbicbicbijbibbibbib",
  "bibbibbibbibbijbCwbbCwbbDibbDibbDibbDibbDwbbDwbbEybbEybbEibbEibbEwbbEwdbibbibbibbibbibbi",
  "bbibbijbibbibbibbibbibbibbibbijbibbibbibbibbibbibbibbijbibbicbjqbjnbibbipbibbiebhobjMhbB",
  "cBubqbbqbbqbbqbbqbbqbbqbbqbbqbbqbbqbbqbbqbbqbbqbbqubbBFnbBabbBabbBabbBabbBabbBabbBabbBab",
  "bBabbBabbBabbBabbBabbBabbBabbBabbBabbBabbBabbBabbBabbBabbBabbBabbBabbBaCSvbBwbbBwbbBwbbB",
  "wbbBwbbBwbbBwbbBwbbBwbbBwbbBwbbBwbbBwbbBwbbBwbbBwbbBwbbBwbbBwbbBwbbBwbbBwbbBwbbBwbbBwbbB",
  "wbbBwbbBwbbBwbbBwbbBwbbBwbbBwbbBwbbBwbbBwbbBwbbBwbbBwbbBwbbBwbbBwbbBwbbBwbbBwbbBwbbBwbbB",
  "wBxbbhbbcbbcbbhbbdbblbbcbbcbbcbbcbbcbbcbbcbbcbbcbbcbbcbbcbbcbbcbbcbbcbbcbbcbbcbbcbbcbbcb",
  "bcbbcbbcbbcbbcbbcbbcbbcbbcbbcbbcbbcbbcbbcbbcbbcbbcbbcbbcbbcbbcbbcbbcbbcbbcbbcbbcbbjbbcbb",
  "fbbBTYkbbcbbcbbcbbcbbebbcbbcbbcbbcbbcbbcbbcbbcbbcbbcbbcbbcbbcbbcbbcbbcbbubbcbbcbbcbbcbbc",
  "bbcbbcbbcbbcbbcbbcbbcbbcbbFgbbcbbcbbcbbcbbcbbcbbebbcbbcbbcbbcbbcbbcbbcbbcbbcbbcbbcbbcbbc",
  "bbcbbcbbcbbcbbcbbcbbcbbcbbcbbcbbcbbcbbcbbcbbcbbcbbcbblbbcbbdbbcbbcbbcbbcbbfbbfbbcbbcbBwc",
  "bbcbbcbbcbbcbbcbbcbbcbbcbbcbblbBJsbbbcbbcbbcbbcbbcbbcbbcbbfbbcbbdbbebbgbbcbbcbbBbbbBFLwb",
  "bBOmbBgbbBgbbBgbbBgbbBgbbBgbbBgbbBgbbBgbbBgbbBgbbBgbbBgbbBgbbBgbbBgbbBgbbBgbbBgbbBgbbBgb",
  "bBgbbBgbbBgbbBgbbBgBVabBobbBobbBobbBobbBobbBobbBobbBobbBobbBobbBobbBobbBobbBobbBobbBobbB",
  "obbBobbBobbBobbBobbBobbBobbBobbBobbBobbBobbBobbBobbBobbBobbBobbBobbBobbBobbBobbBobbBobbB",
  "obbBoFhbBobbBobbBobbBobbBobbBobbBobbBobbBobbBobbBobbBobbBobbBobbBobbBobbBobbBobbBobbBobb",
  "BobbBobbBobbBobbBobbBobbBobbBobbBobbBobbBobbBobbBobbBobbBobbBoGbbBnbbBnbbBnbbBnbbBnbbBnb",
  "bBnbbBnbbBnbbBnbbBncbBnbbBnbbBnbbBnbbBnbbBnbbBnbbBnbbBnbbBnbbBnbbBnbbBnbbBnbbBncbBnbbBnb",
  "bBnbbBnbbBnbbBnbbBncbBnbbBnCQdbCmbbCmbbCmbbCmbbCmbbCmbbCmbbCmbbCmbbCmbbCmbbCmbbCmbbCmbbC",
  "mbbCmbbCmbbCmbbCmbbCmbbCmbbCmbbCmbbCmbbCmbbCmbbCmbbCmbbCmbbCmbbCmbbCmbbCmbbCmbbCmbbCmbbC",
  "mbbCmbbCmbbCmbbCmbbCmbbCmbbCmbbCmbbCmbbCmbbCmbbCmbbCmbbCmGcbBgbbBgbbBgbbBgbbBgbbBgbbBgbb",
  "BgbbBgbbBgbbBgbbBgbbBgbbBgbbBgbbBgbbBgbbBgbbBgbbBgbbBgbbBgEGpbBgbbBgbbBgbbBgbbBgbbBgbbBg",
  "bbBgbbBgbbBgbbBgbbBgbbBgbbBgbbBgbbBgbbBgbbBgbbBgbbBgbbBgbbBgbbBgbbBgbbBgbbBgbbBgbbBgbbBg",
  "bbBgbbBgbbBgBGJxbBgbbBgbbBgbbBgbbBgbbBgbbBgbbBgbbBgbbBgbbBgbbBgbbBgbbBgbbBgbbBgbbBgbbBgb",
  "bBgbbBgbbBgbbBgbbBgbbBgbbBgbbBgbbBgbbBgbbBgbbBgbbBgbbBgBULlbBibbBibbBibbBibbBibbBibbBibb",
  "BibbBibbBibbBibbBibbBibbBibbBibbBibbBibbBibbBibbBibbBibbBibbBibbBibbBibbBibbBibbBibbBibb",
  "BibbBibbBibbBibbBi"]

/-- The orbits that a list of numbers spells, given the smallest member of the
orbit before and the numbers still to read; a count of members that runs past
the list ends it. -/
def readOrbits (smallest : Nat) (fuel : Nat) (numbers : List Nat) : List (List Nat) :=
  match fuel, numbers with
  | fuel + 1, distance :: count :: rest =>
    let first := smallest + distance
    let members := (rest.take count).foldl (fun acc d => (acc.headD first + d) :: acc) [first]
    members.reverse :: readOrbits first fuel (rest.drop count)
  | _, _ => []

/-- The orbits of simple case folding, in the order of their smallest
members. -/
def caseOrbits : List (List Nat) :=
  let numbers := readLengths 0 (caseOrbitText.flatMap String.toList)
  readOrbits 0 numbers.length numbers

/-- The set with every case variant of its members. -/
def CharSet.foldCase (s : CharSet) : CharSet :=
  caseOrbits.foldl (fun acc orbit =>
    if orbit.any s.containsPoint then orbit.foldl (fun a p => a.insert ⟨p, p⟩) acc else acc) s

/-- The set with the ASCII case variants of its members. -/
def CharSet.foldAsciiCase (s : CharSet) : CharSet :=
  let lower := s.inter ⟨[⟨'A'.toNat, 'Z'.toNat⟩]⟩
  let upper := s.inter ⟨[⟨'a'.toNat, 'z'.toNat⟩]⟩
  let shiftedUp := lower.intervals.map fun i => ⟨i.lo + 32, i.hi + 32⟩
  let shiftedDown := upper.intervals.map fun i => ⟨i.lo - 32, i.hi - 32⟩
  (shiftedUp ++ shiftedDown).foldl insert s

/-- The orbit of a character, if simple case folding identifies it with
another. -/
def caseOrbit? (c : Char) : Option CharSet :=
  (caseOrbits.find? (·.contains c.toNat)).map CharSet.ofPoints

end NodeSieve.Unicode
