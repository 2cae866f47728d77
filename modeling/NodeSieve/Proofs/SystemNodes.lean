import NodeSieve.Proofs.Search
import NodeSieve.Store.NodeFilters

/-!
# What the default filter hides

The filter that stands under the key for default nodes keeps access policies
and the system's own trees out of sight. What it rejects is worked out here
from the text that configures it: the text is compiled once, by computation,
to five terms, and the terms are read through `Term.isMatch_iff`.

A tree's pattern ends in `(/.*)?$`, and the dot stands for any character but a
line feed. So the boundary has a hole: a path below a system tree in which a
line feed occurs is not hidden.
-/

namespace NodeSieve

open NodeSieve.Unicode NodeSieve.Regex NodeSieve.Regex.Term

/-- The names of access policies. -/
def policyNames : List String :=
  ["rep:policy", "rep:Policy", "rep:repopolicy", "rep:repoPolicy"]

/-- The roots of the system's trees. -/
def systemRoots : List String :=
  ["/bin", "/services", "/servlet", "/system", "/jcr:system"]

/-- A path at a root or anywhere below it. -/
def AtOrBelow (root path : String) : Prop :=
  path = root ∨ ∃ rest, path.toList = root.toList ++ '/' :: rest

/-- A path that belongs to one of the system's trees. -/
def InSystemTree (path : String) : Prop :=
  ∃ root ∈ systemRoots, AtOrBelow root path

/-! ## The terms -/

/-- What the dot stands for. -/
def anyButLineFeed : CharSet :=
  ⟨[⟨0, 9⟩, ⟨11, 1114111⟩]⟩

/-- The end of a tree's pattern, `(/.*)?`. -/
def subtreeTerm : Term :=
  .repeated 0 (some 1) (catAll [char '/', .repeated 0 none (.oneOf anyButLineFeed)])

/-- The pattern of a tree whose root is matched by some terms in a row. -/
def treeTerm (root : List Term) : Term :=
  catAll (.look .textStart :: (root ++ [subtreeTerm] ++ [.look .textEnd]))

/-- A word that may be missing. -/
def optionalWord (word : List Char) : Term :=
  .repeated 0 (some 1) (catAll (word.map char))

/-- The root `/(jcr:)?system`. -/
def systemRootTerms : List Term :=
  [char '/', optionalWord ['j', 'c', 'r', ':']] ++ ['s', 'y', 's', 't', 'e', 'm'].map char

/-- The name `rep:(repo)?[Pp]olicy`. -/
def policyTerms : List Term :=
  ['r', 'e', 'p', ':'].map char ++
    [optionalWord ['r', 'e', 'p', 'o'], .oneOf ⟨[⟨80, 80⟩, ⟨112, 112⟩]⟩] ++
    ['o', 'l', 'i', 'c', 'y'].map char

/-- The pattern of a tree, as it is written. -/
def treePattern (source : String) (root : List Term) : Pattern :=
  ⟨source, treeTerm root⟩

def treePatterns : List Pattern :=
  [treePattern "^/bin(/.*)?$" ("/bin".toList.map char),
    treePattern "^/services(/.*)?$" ("/services".toList.map char),
    treePattern "^/servlet(/.*)?$" ("/servlet".toList.map char),
    treePattern "^/(jcr:)?system(/.*)?$" systemRootTerms]

def policyPattern : Pattern :=
  ⟨"^rep:(repo)?[Pp]olicy$", catAll (.look .textStart :: (policyTerms ++ [.look .textEnd]))⟩

/-- The default filter, compiled. -/
def defaultNodeFilter : Filter :=
  .all [.leaf (.field .name) .exclude [policyPattern],
    .leaf (.field .path) .exclude treePatterns]

theorem activate_default : (NodeFilters.activate .default).map
    (fun filters => (filters.filter .default).root) = .ok defaultNodeFilter := by
  decide +kernel

/-! ## What the terms match -/

theorem contains_anyButLineFeed {c : Char} : anyButLineFeed.contains c = true ↔ c ≠ '\n' := by
  have hc : c.toNat ≤ 1114111 := by
    rcases c.valid with h | ⟨-, h⟩
    · exact Nat.le_trans (Nat.le_of_lt h) (by decide)
    · exact Nat.le_of_lt_succ h
  simp only [CharSet.contains, CharSet.containsPoint, anyButLineFeed, List.any_cons,
    List.any_nil, Interval.contains, Bool.or_false, Bool.or_eq_true, Bool.and_eq_true,
    decide_eq_true_eq, ne_eq, ← Char.toNat_inj]
  rw [show '\n'.toNat = 10 from rfl]
  omega

section

variable {before behind x : List Char}

theorem spans_subtreeTerm_iff :
    Spans subtreeTerm before x behind ↔ x = [] ∨ ∃ rest, x = '/' :: rest ∧ '\n' ∉ rest := by
  rw [subtreeTerm, spans_optional_iff, spans_catAll_cons]
  refine or_congr_right ⟨?_, ?_⟩
  · intro h
    obtain ⟨y, rest, rfl, hy, hrest⟩ := h
    rw [spans_char_iff.mp hy]
    refine ⟨rest, rfl, fun hmem => ?_⟩
    exact contains_anyButLineFeed.mp (spans_star_oneOf_iff.mp hrest '\n' hmem) rfl
  · intro h
    obtain ⟨rest, rfl, hrest⟩ := h
    refine ⟨['/'], rest, rfl, spans_char_iff.mpr rfl, spans_star_oneOf_iff.mpr ?_⟩
    intro c hc
    refine contains_anyButLineFeed.mpr ?_
    intro h
    subst h
    exact hrest hc

/-- A text at a root or below it, with no line feed below. -/
def Reaches (root text : List Char) : Prop :=
  text = root ∨ ∃ rest, text = root ++ '/' :: rest ∧ '\n' ∉ rest

/-- A tree's pattern matches its roots and what is below them, up to line
feeds. -/
theorem treeTerm_matches_iff {root : List Term} {roots : List Char → Prop}
    (hroot : ∀ {before x behind}, Spans (catAll root) before x behind ↔ roots x) :
    (treeTerm root).Matches x ↔
      ∃ y, roots y ∧ Reaches y x := by
  rw [treeTerm, matches_anchored_iff, spans_catAll_append]
  constructor
  · intro h
    obtain ⟨y, z, rfl, hy, hz⟩ := h
    refine ⟨y, hroot.mp hy, ?_⟩
    rcases spans_subtreeTerm_iff.mp hz with rfl | ⟨rest, rfl, hrest⟩
    · exact .inl (List.append_nil y)
    · exact .inr ⟨rest, rfl, hrest⟩
  · intro h
    rcases h with ⟨y, hy, rfl | ⟨rest, rfl, hrest⟩⟩
    · exact ⟨x, [], (List.append_nil x).symm, hroot.mpr hy, spans_subtreeTerm_iff.mpr (.inl rfl)⟩
    · exact ⟨y, _, rfl, hroot.mpr hy, spans_subtreeTerm_iff.mpr (.inr ⟨rest, rfl, hrest⟩)⟩

theorem spans_optionalWord_iff {word : List Char} :
    Spans (optionalWord word) before x behind ↔ x = [] ∨ x = word := by
  rw [optionalWord, spans_optional_iff, spans_word_iff]

theorem spans_systemRootTerms_iff :
    Spans (catAll systemRootTerms) before x behind ↔
      x = "/system".toList ∨ x = "/jcr:system".toList := by
  rw [systemRootTerms, spans_catAll_append]
  constructor
  · intro h
    obtain ⟨y, z, rfl, hy, hz⟩ := h
    rw [spans_word_iff.mp hz]
    obtain ⟨slash, prefix', rfl, hslash, hprefix⟩ := spans_catAll_cons.mp hy
    rw [spans_char_iff.mp hslash]
    rcases spans_optionalWord_iff.mp hprefix with rfl | rfl
    · exact .inl rfl
    · exact .inr rfl
  · intro h
    rcases h with rfl | rfl
    · refine ⟨['/'], ['s', 'y', 's', 't', 'e', 'm'], rfl, ?_, spans_word_iff.mpr rfl⟩
      exact spans_catAll_cons.mpr
        ⟨['/'], [], rfl, spans_char_iff.mpr rfl, spans_optionalWord_iff.mpr (.inl rfl)⟩
    · refine ⟨['/', 'j', 'c', 'r', ':'], ['s', 'y', 's', 't', 'e', 'm'], rfl, ?_,
        spans_word_iff.mpr rfl⟩
      exact spans_catAll_cons.mpr
        ⟨['/'], _, rfl, spans_char_iff.mpr rfl, spans_optionalWord_iff.mpr (.inr rfl)⟩

theorem contains_policyLetters {c : Char} :
    (⟨[⟨80, 80⟩, ⟨112, 112⟩]⟩ : CharSet).contains c = true ↔ c = 'P' ∨ c = 'p' := by
  simp only [CharSet.contains, CharSet.containsPoint, List.any_cons, List.any_nil,
    Interval.contains, Bool.or_false, Bool.or_eq_true, Bool.and_eq_true, decide_eq_true_eq,
    ← Char.toNat_inj]
  rw [show 'P'.toNat = 80 from rfl, show 'p'.toNat = 112 from rfl]
  omega

theorem policyPattern_matches_iff {name : String} :
    policyPattern.term.Matches name.toList ↔ name ∈ policyNames := by
  have hnames : name ∈ policyNames ↔ ∃ repo letter,
      (repo = [] ∨ repo = ['r', 'e', 'p', 'o']) ∧ (letter = 'P' ∨ letter = 'p') ∧
        name.toList = ['r', 'e', 'p', ':'] ++ (repo ++ [letter]) ++ ['o', 'l', 'i', 'c', 'y'] := by
    rw [policyNames]
    constructor
    · intro h
      simp only [List.mem_cons, List.not_mem_nil, or_false] at h
      rcases h with rfl | rfl | rfl | rfl
      · exact ⟨[], 'p', .inl rfl, .inr rfl, rfl⟩
      · exact ⟨[], 'P', .inl rfl, .inl rfl, rfl⟩
      · exact ⟨_, 'p', .inr rfl, .inr rfl, rfl⟩
      · exact ⟨_, 'P', .inr rfl, .inl rfl, rfl⟩
    · intro h
      rcases h with ⟨repo, letter, rfl | rfl, rfl | rfl, hname⟩
      all_goals
        rw [← String.ofList_toList (s := name), hname]
        decide
  rw [policyPattern, matches_anchored_iff, policyTerms, spans_catAll_append, hnames]
  constructor
  · intro h
    obtain ⟨y, z, hname, hy, hz⟩ := h
    obtain ⟨rep, w, rfl, hrep, hw⟩ := spans_catAll_append.mp hy
    obtain ⟨repo, v, rfl, hrepo, hv⟩ := spans_catAll_cons.mp hw
    obtain ⟨letter, rfl, hletter⟩ := spans_oneOf_iff.mp hv
    refine ⟨repo, letter, spans_optionalWord_iff.mp hrepo, contains_policyLetters.mp hletter, ?_⟩
    rw [hname, spans_word_iff.mp hrep, spans_word_iff.mp hz]
  · intro h
    obtain ⟨repo, letter, hrepo, hletter, hname⟩ := h
    refine ⟨_, _, hname, ?_, spans_word_iff.mpr rfl⟩
    refine spans_catAll_append.mpr ⟨_, _, rfl, spans_word_iff.mpr rfl, ?_⟩
    refine spans_catAll_cons.mpr ⟨_, _, rfl, spans_optionalWord_iff.mpr hrepo, ?_⟩
    exact spans_oneOf_iff.mpr ⟨letter, rfl, contains_policyLetters.mpr hletter⟩

end

theorem reaches_iff {root path : String} (hroot : '\n' ∉ root.toList) :
    Reaches root.toList path.toList ↔ AtOrBelow root path ∧ '\n' ∉ path.toList := by
  rw [Reaches, AtOrBelow, String.toList_inj, or_and_right]
  refine or_congr ?_ ?_
  · constructor
    · intro h
      subst h
      exact ⟨rfl, hroot⟩
    · exact And.left
  · constructor
    · intro h
      obtain ⟨rest, hpath, hrest⟩ := h
      refine ⟨⟨rest, hpath⟩, ?_⟩
      rw [hpath, List.mem_append, List.mem_cons, not_or, not_or]
      exact ⟨hroot, by decide, hrest⟩
    · intro h
      obtain ⟨⟨rest, hpath⟩, hline⟩ := h
      rw [hpath, List.mem_append, List.mem_cons, not_or, not_or] at hline
      exact ⟨rest, hpath, hline.2.2⟩

/-- The four tree patterns together match what is in the system's trees, up to
line feeds. -/
theorem treePatterns_match_iff {path : String} :
    (∃ p ∈ treePatterns, p.term.Matches path.toList) ↔
      InSystemTree path ∧ '\n' ∉ path.toList := by
  have hroots : (∃ p ∈ treePatterns, p.term.Matches path.toList) ↔
      ∃ root ∈ systemRoots, Reaches root.toList path.toList := by
    simp only [treePatterns, treePattern, systemRoots, List.mem_cons, List.not_mem_nil, or_false,
      exists_eq_left, treeTerm_matches_iff spans_word_iff,
      treeTerm_matches_iff spans_systemRootTerms_iff, or_and_right, exists_or]
  have hplain : ∀ root ∈ systemRoots, '\n' ∉ root.toList := by decide
  rw [hroots]
  constructor
  · intro h
    obtain ⟨root, hroot, hreach⟩ := h
    obtain ⟨hbelow, hline⟩ := (reaches_iff (hplain root hroot)).mp hreach
    exact ⟨⟨root, hroot, hbelow⟩, hline⟩
  · intro h
    obtain ⟨⟨root, hroot, hbelow⟩, hline⟩ := h
    exact ⟨root, hroot, (reaches_iff (hplain root hroot)).mpr ⟨hbelow, hline⟩⟩

/-! ## The filter -/

theorem patterns_ordered : ∀ p ∈ policyPattern :: treePatterns, p.term.ordered = true := by
  decide

/-- A test with `-` for one text fails if one of its patterns matches. -/
theorem exclude_accepts_iff {f : Field} {ps : List Pattern} {m : Resource} {subject : String}
    (hsubject : f.subjects m = [subject]) (hps : ∀ p ∈ ps, p.term.ordered = true) :
    (Filter.leaf (.field f) .exclude ps).accepts m = false ↔
      ∃ p ∈ ps, p.term.Matches subject.toList := by
  rw [Filter.accepts, Sign.apply, Bool.not_eq_false', Filter.anyMatch, Predicate.subjects,
    hsubject, List.any_cons, List.any_nil, Bool.or_false, List.any_eq_true]
  exact exists_congr fun p => and_congr_right fun hp => isMatch_iff (hps p hp) subject.toList

theorem defaultNodeFilter_accepts_iff (m : Resource) :
    defaultNodeFilter.accepts m = false ↔
      m.name ∈ policyNames ∨ InSystemTree m.path ∧ '\n' ∉ m.path.toList := by
  obtain ⟨hpolicy, htrees⟩ := List.forall_mem_cons.mp patterns_ordered
  have hname := exclude_accepts_iff (f := .name) (m := m) rfl (List.forall_mem_singleton.mpr hpolicy)
  have hpath := exclude_accepts_iff (f := .path) (m := m) rfl htrees
  rw [treePatterns_match_iff] at hpath
  rw [defaultNodeFilter, Filter.accepts, Filter.allAccept, Filter.allAccept, Filter.allAccept,
    Bool.and_true, Bool.and_eq_false_iff, hname, hpath]
  simp only [List.mem_singleton, exists_eq_left, policyPattern_matches_iff]

/-- The default filter of a fresh activation rejects the access policies and
what is in the system's trees, but for paths with a line feed. So it draws the
boundary that it is meant to draw for all nodes but those below a system root
whose path has one. -/
theorem default_filter_hides_iff (m : Resource) :
    ∃ filters, NodeFilters.activate .default = .ok filters ∧
      ((filters.filter .default).accepts m = false ↔
        m.name ∈ policyNames ∨ InSystemTree m.path ∧ '\n' ∉ m.path.toList) ∧
      (((filters.filter .default).accepts m = false ↔
          m.name ∈ policyNames ∨ InSystemTree m.path) ↔
        (InSystemTree m.path → '\n' ∈ m.path.toList → m.name ∈ policyNames)) := by
  obtain ⟨filters, hactivate, hroot⟩ := map_eq_ok_iff.mp activate_default
  refine ⟨filters, hactivate, ?_⟩
  rw [CompiledFilter.accepts, hroot, defaultNodeFilter_accepts_iff]
  refine ⟨Iff.rfl, ?_⟩
  constructor
  · intro h htree hline
    exact (h.mpr (.inr htree)).resolve_right fun h => h.2 hline
  · intro h
    constructor
    · exact Or.imp_right And.left
    · intro h
      rcases h with hname | htree
      · exact .inl hname
      · by_cases hline : '\n' ∈ m.path.toList
        · exact .inl (h htree hline)
        · exact .inr ⟨htree, hline⟩

/-- A node below a system root that the default filter shows. -/
theorem default_filter_shows_line_feed :
    ∃ filters, NodeFilters.activate .default = .ok filters ∧
      ¬ ((filters.filter .default).accepts (.ofPath "/bin/a\nb") = false ↔
        (Resource.ofPath "/bin/a\nb").name ∈ policyNames ∨
          InSystemTree (Resource.ofPath "/bin/a\nb").path) := by
  obtain ⟨filters, hactivate, hroot⟩ := map_eq_ok_iff.mp activate_default
  have hshown : defaultNodeFilter.accepts (.ofPath "/bin/a\nb") = true := by decide +kernel
  have hbelow : InSystemTree "/bin/a\nb" := ⟨"/bin", by decide, .inr ⟨['a', '\n', 'b'], rfl⟩⟩
  refine ⟨filters, hactivate, fun h => ?_⟩
  have hhidden := h.mpr (.inr hbelow)
  rw [CompiledFilter.accepts, hroot, hshown] at hhidden
  cases hhidden

end NodeSieve
