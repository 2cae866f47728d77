import NodeSieve.Filter.Compiled
import NodeSieve.Proofs.Sameness

/-!
# Changing the rules for types

Rules come into a filter in one place: the test for a type looks where the
first rule that covers its name sends it. Whether the test can be compiled at
all is settled by the name alone. So two lists of rules give the same error or
two trees of one shape, and the trees differ at most in where they look for
names that the lists send to different places (`redirected_of_lower`).

What a change of the list does is therefore a question about the first hit in
it. A rule behind one that covers all its names is never the first; two
neighbours may change places unless some name has both starts; and a rule
behind all others decides for the names that nothing in front of it covers.
These could be either kind of type before, so sending them there again changes
nothing.
-/

namespace NodeSieve

namespace TypeRules

variable {before after : List TypeRule} {rules rules' : TypeRules} {rule first second : TypeRule}
  {name : List Char}

theorem resolve_eq_of_target (h : rules.target name = rules'.target name) :
    rules.resolve name = rules'.resolve name := by
  rw [resolve, resolve, h]

/-! ## The first hit -/

theorem target_cons_of_starts {rules : List TypeRule} (h : rule.start.toList <+: name) :
    target ⟨rule :: rules⟩ name = rule.target := by
  rw [target, List.find?_cons_of_pos (covers_iff.mpr h)]

theorem target_cons_of_not_starts {rules : List TypeRule} (h : ¬ rule.start.toList <+: name) :
    target ⟨rule :: rules⟩ name = target ⟨rules⟩ name := by
  rw [target, target, List.find?_cons_of_neg (mt covers_iff.mp h)]

/-- Rules behind others matter only for the names that those do not cover. -/
theorem target_append_congr {rest rest' : List TypeRule}
    (h : (∀ other ∈ before, ¬ other.start.toList <+: name) →
      target ⟨rest⟩ name = target ⟨rest'⟩ name) :
    target ⟨before ++ rest⟩ name = target ⟨before ++ rest'⟩ name := by
  rw [target, target, List.find?_append, List.find?_append]
  cases hbefore : before.find? (covers name) with
  | some found => rfl
  | none =>
      exact h fun other hother hprefix =>
        List.find?_eq_none.mp hbefore other hother (covers_iff.mpr hprefix)

/-- A rule is never the first to cover a name if one in front of it covers all
that it covers. -/
theorem target_of_shadowed (h : ∃ earlier ∈ before, earlier.start.toList <+: rule.start.toList) :
    target ⟨before ++ rule :: after⟩ name = target ⟨before ++ after⟩ name := by
  obtain ⟨earlier, hearlier, hstart⟩ := h
  refine target_append_congr fun hbefore => target_cons_of_not_starts fun hrule => ?_
  exact hbefore earlier hearlier (hstart.trans hrule)

/-- Two rules that never disagree about a name: none has both of their starts,
or they send it to the same place. -/
def Independent (first second : TypeRule) : Prop :=
  (¬ first.start.toList <+: second.start.toList ∧
    ¬ second.start.toList <+: first.start.toList) ∨ first.target = second.target

instance : Decidable (Independent first second) :=
  inferInstanceAs (Decidable (_ ∨ _))

theorem Independent.target_eq (h : Independent first second)
    (hfirst : first.start.toList <+: name) (hsecond : second.start.toList <+: name) :
    first.target = second.target := by
  rcases h with ⟨hnot, hnot'⟩ | h
  · rcases List.prefix_or_prefix_of_prefix hfirst hsecond with h | h
    · exact absurd h hnot
    · exact absurd h hnot'
  · exact h

theorem target_swap (h : Independent first second) :
    target ⟨before ++ first :: second :: after⟩ name =
      target ⟨before ++ second :: first :: after⟩ name := by
  refine target_append_congr fun _ => ?_
  by_cases hfirst : first.start.toList <+: name
  · rw [target_cons_of_starts hfirst]
    by_cases hsecond : second.start.toList <+: name
    · rw [target_cons_of_starts hsecond]
      exact h.target_eq hfirst hsecond
    · rw [target_cons_of_not_starts hsecond, target_cons_of_starts hfirst]
  · rw [target_cons_of_not_starts hfirst]
    by_cases hsecond : second.start.toList <+: name
    · rw [target_cons_of_starts hsecond, target_cons_of_starts hsecond]
    · rw [target_cons_of_not_starts hsecond, target_cons_of_not_starts hsecond,
        target_cons_of_not_starts hfirst]

/-! ## A rule behind all others -/

/-- The names for which a rule behind all others decides: it covers them, and
none of the others does. -/
structure Claims (rules : TypeRules) (rule : TypeRule) (name : List Char) : Prop where
  covered : rule.start.toList <+: name
  unclaimed : ∀ other ∈ rules.rules, ¬ other.start.toList <+: name

theorem Claims.selects (h : rules.Claims rule name) :
    rules.Selects name .generic ∧ (rules.withRule rule).Selects name rule.target :=
  ⟨.unruled h.unclaimed, .first rfl h.covered h.unclaimed⟩

theorem target_withRule_of_not_claims (h : ¬ rules.Claims rule name) :
    (rules.withRule rule).target name = rules.target name := by
  have hrest : target ⟨rules.rules ++ [rule]⟩ name = target ⟨rules.rules ++ []⟩ name :=
    target_append_congr fun hothers => target_cons_of_not_starts fun hrule => h ⟨hrule, hothers⟩
  rwa [List.append_nil] at hrest

/-- A rule that leaves open what a type is says what holds without it. -/
theorem target_withRule_generic (h : rule.target = .generic) :
    (rules.withRule rule).target name = rules.target name := by
  by_cases hclaims : rules.Claims rule name
  · obtain ⟨hbefore, hafter⟩ := hclaims.selects
    rw [selects_iff.mp hbefore, selects_iff.mp hafter, h]
  · exact target_withRule_of_not_claims hclaims

end TypeRules

/-! ## Filters under other rules -/

namespace Filter

/-- The same filter, except that tests for types with certain names look where
the second rules send the name and not where the first do. -/
inductive Redirected (options : PatternOptions) (rules rules' : TypeRules)
    (names : List Char → Prop) : Filter → Filter → Prop
  | same (x : Filter) : Redirected options rules rules' names x x
  | all {xs ys : List Filter} (h : List.Forall₂ (Redirected options rules rules' names) xs ys) :
      Redirected options rules rules' names (.all xs) (.all ys)
  | any {xs ys : List Filter} (h : List.Forall₂ (Redirected options rules rules' names) xs ys) :
      Redirected options rules rules' names (.any xs) (.any ys)
  | type {name : List Char} {p : Pattern} (hname : names name)
      (hp : Pattern.literal options name = .ok p) (sign : Sign) :
      Redirected options rules rules' names (.leaf (rules.resolve name) sign [p])
        (.leaf (rules'.resolve name) sign [p])

section

variable {options : PatternOptions} {rules rules' : TypeRules} {names : List Char → Prop}

theorem Redirected.eq {x y : Filter} (h : Redirected options rules rules' names x y)
    (hnames : ∀ name, ¬ names name) : x = y := by
  induction x using Filter.induction generalizing y with
  | acceptAll =>
      cases h
      rfl
  | all xs ih =>
      cases h with
      | same => rfl
      | all h =>
          exact congrArg _ (eq_of_forall₂ h fun x hx y _ hxy => ih x hx hxy)
  | any xs ih =>
      cases h with
      | same => rfl
      | any h =>
          exact congrArg _ (eq_of_forall₂ h fun x hx y _ hxy => ih x hx hxy)
  | leaf predicate sign ps =>
      cases h with
      | same => rfl
      | type hname => exact absurd hname (hnames _)
  | folder =>
      cases h
      rfl

theorem Redirected.joinTypes {leaves leaves' : List Filter} (sign : Sign)
    (h : List.Forall₂ (Redirected options rules rules' names) leaves leaves') :
    Redirected options rules rules' names (Definition.joinTypes sign leaves)
      (Definition.joinTypes sign leaves') := by
  cases h with
  | nil => exact .same _
  | cons hfirst hrest =>
      cases hrest with
      | nil => exact hfirst
      | cons hsecond hrest =>
          cases sign
          · exact .any (.cons hfirst (.cons hsecond hrest))
          · exact .all (.cons hfirst (.cons hsecond hrest))

end

end Filter

/-- The options with other rules for types. -/
def ParseOptions.withRules (options : ParseOptions) (rules : TypeRules) : ParseOptions :=
  { options with typeRules := rules }

theorem ParseOptions.withRules_maxDepth (options : ParseOptions) (rules : TypeRules) :
    (options.withRules rules).maxDepth = options.maxDepth :=
  rfl

theorem ParseOptions.withRules_pattern (options : ParseOptions) (rules : TypeRules) :
    (options.withRules rules).pattern = options.pattern :=
  rfl

namespace Definition

open NodeSieve.Filter

section

variable {options : ParseOptions} {rules rules' : TypeRules} {names : List Char → Prop}

theorem redirected_of_lowerType {sign : Sign} {literal : List Char} {leaf leaf' : Filter}
    (hnames : ∀ name, ¬ names name → rules.resolve name = rules'.resolve name)
    (h : lowerType (options.withRules rules) sign literal = .ok leaf)
    (h' : lowerType (options.withRules rules') sign literal = .ok leaf') :
    Redirected options.pattern rules rules' names leaf leaf' := by
  obtain ⟨p, hp, rfl⟩ := lowerType_eq_ok_iff.mp h
  obtain ⟨p', hp', rfl⟩ := lowerType_eq_ok_iff.mp h'
  obtain rfl := Except.ok.inj (hp.symm.trans hp')
  by_cases hname : names (unescape literal)
  · exact .type hname hp sign
  · have hresolve := hnames _ hname
    rw [show (options.withRules rules).typeRules.resolve (unescape literal) =
      (options.withRules rules').typeRules.resolve (unescape literal) from hresolve]
    exact .same _

/-- Under two lists of rules a definition is lowered to filters that differ at
most where the lists do. -/
theorem redirected_of_lower {d : Definition} {t t' : Filter}
    (hnames : ∀ name, ¬ names name → rules.resolve name = rules'.resolve name)
    (h : d.lower (options.withRules rules) = .ok t)
    (h' : d.lower (options.withRules rules') = .ok t') :
    Redirected options.pattern rules rules' names t t' := by
  induction d using Definition.induction generalizing t t' with
  | folder =>
      rw [lower] at h h'
      obtain rfl := Except.ok.inj (h.symm.trans h')
      exact .same _
  | all ds ih =>
      rw [lower] at h h'
      obtain ⟨xs, hxs, rfl⟩ := map_eq_ok_iff.mp h
      obtain ⟨ys, hys, rfl⟩ := map_eq_ok_iff.mp h'
      exact .all (forall₂_of_common (lowerAll_eq_ok_iff.mp hxs) (lowerAll_eq_ok_iff.mp hys)
        fun d hd _ _ => ih d hd)
  | any ds ih =>
      rw [lower] at h h'
      obtain ⟨xs, hxs, rfl⟩ := map_eq_ok_iff.mp h
      obtain ⟨ys, hys, rfl⟩ := map_eq_ok_iff.mp h'
      exact .any (forall₂_of_common (lowerAll_eq_ok_iff.mp hxs) (lowerAll_eq_ok_iff.mp hys)
        fun d hd _ _ => ih d hd)
  | field f sign sources =>
      rw [lower] at h h'
      obtain ⟨ps, hps, rfl⟩ := map_eq_ok_iff.mp h
      obtain ⟨qs, hqs, rfl⟩ := map_eq_ok_iff.mp h'
      have heq : List.Forall₂ Eq ps qs :=
        forall₂_of_common (lowerPatterns_eq_ok_iff.mp hps) (lowerPatterns_eq_ok_iff.mp hqs)
          fun _ _ _ _ hp hq => Except.ok.inj (hp.symm.trans hq)
      rw [List.forall₂_eq_eq_eq] at heq
      subst heq
      exact .same _
  | type sign literals =>
      rw [lower] at h h'
      obtain ⟨leaves, hleaves, rfl⟩ := map_eq_ok_iff.mp h
      obtain ⟨leaves', hleaves', rfl⟩ := map_eq_ok_iff.mp h'
      refine .joinTypes sign (forall₂_of_common (lowerTypes_eq_ok_iff.mp hleaves)
        (lowerTypes_eq_ok_iff.mp hleaves') fun _ _ _ _ => ?_)
      exact redirected_of_lowerType hnames

/-- No rule has a say in what is refused. -/
theorem error?_lower_withRules (d : Definition) :
    error? (d.lower (options.withRules rules)) = error? (d.lower (options.withRules rules')) := by
  rw [error?_lower, error?_lower, ParseOptions.withRules_pattern, ParseOptions.withRules_pattern]

end

end Definition

namespace CompiledFilter

open NodeSieve.Filter Definition TypeRules

section

variable {options : ParseOptions} {rules rules' : TypeRules} {source : String}

theorem compile_withRules_error_iff {e : FilterError} :
    compile (options.withRules rules) source = .error e ↔
      compile (options.withRules rules') source = .error e := by
  rw [compile, compile, map_eq_error_iff, map_eq_error_iff, Filter.parse, Filter.parse,
    Filter.ofChars, Filter.ofChars, ParseOptions.withRules_maxDepth,
    ParseOptions.withRules_maxDepth]
  cases read options.maxDepth.toNat source.toList with
  | error m => exact Iff.rfl
  | ok answer =>
      cases answer with
      | none => exact Iff.rfl
      | some d =>
          simp only []
          rw [← error?_eq_some_iff, ← error?_eq_some_iff, error?_lower_withRules]

theorem redirected_of_compile {names : List Char → Prop} {c c' : CompiledFilter}
    (hnames : ∀ name, ¬ names name → rules.target name = rules'.target name)
    (hc : compile (options.withRules rules) source = .ok c)
    (hc' : compile (options.withRules rules') source = .ok c') :
    Redirected options.pattern rules rules' names c.root c'.root := by
  obtain ⟨-, hroot⟩ := compile_eq_ok_iff.mp hc
  obtain ⟨-, hroot'⟩ := compile_eq_ok_iff.mp hc'
  rw [Filter.parse, Filter.ofChars, ParseOptions.withRules_maxDepth] at hroot hroot'
  cases hread : read options.maxDepth.toNat source.toList with
  | error m =>
      rw [hread] at hroot
      cases hroot
  | ok answer =>
      rw [hread] at hroot hroot'
      cases answer with
      | none =>
          rw [← Except.ok.inj hroot, ← Except.ok.inj hroot']
          exact .same _
      | some d =>
          exact redirected_of_lower (fun name h => resolve_eq_of_target (hnames name h)) hroot
            hroot'

/-- Rules that send every name to the same place are as good as each other. -/
theorem compile_withRules_eq (h : ∀ name, rules.target name = rules'.target name) :
    compile (options.withRules rules) source = compile (options.withRules rules') source := by
  cases hc : compile (options.withRules rules) source with
  | error e => exact (compile_withRules_error_iff.mp hc).symm
  | ok c =>
      cases hc' : compile (options.withRules rules') source with
      | error e =>
          rw [compile_withRules_error_iff.mp hc'] at hc
          cases hc
      | ok c' =>
          have hredirected : Redirected options.pattern rules rules' (fun _ => False) c.root
              c'.root :=
            redirected_of_compile (fun name _ => h name) hc hc'
          have hroot := hredirected.eq fun _ => id
          obtain ⟨hsource, -⟩ := compile_eq_ok_iff.mp hc
          obtain ⟨hsource', -⟩ := compile_eq_ok_iff.mp hc'
          cases c
          cases c'
          exact congrArg _ (congr (congrArg mk (hsource.trans hsource'.symm)) hroot)

end

/-- Which changes of the rules leave what a definition is compiled to, filter
or error: taking out a rule whose names are all covered in front of it,
exchanging two neighbours that are independent, and adding a rule that leaves
open what a type is. Any other rule that is added changes no error, and of the
filter only the tests for types that it covers and no other rule did. -/
theorem compile_under_rule_changes (options : ParseOptions) (source : String) :
    (∀ (before after : List TypeRule) (rule : TypeRule),
      (∃ earlier ∈ before, earlier.start.toList <+: rule.start.toList) →
        compile (options.withRules ⟨before ++ rule :: after⟩) source =
          compile (options.withRules ⟨before ++ after⟩) source) ∧
      (∀ (before after : List TypeRule) (first second : TypeRule), Independent first second →
        compile (options.withRules ⟨before ++ first :: second :: after⟩) source =
          compile (options.withRules ⟨before ++ second :: first :: after⟩) source) ∧
      (∀ (rules : TypeRules) (rule : TypeRule), rule.target = .generic →
        compile (options.withRules (rules.withRule rule)) source =
          compile (options.withRules rules) source) ∧
      ∀ (rules : TypeRules) (rule : TypeRule),
        (∀ e, compile (options.withRules rules) source = .error e ↔
          compile (options.withRules (rules.withRule rule)) source = .error e) ∧
        (∀ c c', compile (options.withRules rules) source = .ok c →
          compile (options.withRules (rules.withRule rule)) source = .ok c' →
          Redirected options.pattern rules (rules.withRule rule) (rules.Claims rule)
            c.root c'.root) ∧
        ∀ name, rules.Claims rule name →
          rules.Selects name .generic ∧ (rules.withRule rule).Selects name rule.target := by
  refine ⟨?_, ?_, ?_, ?_⟩
  · intro before after rule h
    exact compile_withRules_eq fun name => target_of_shadowed h
  · intro before after first second h
    exact compile_withRules_eq fun name => target_swap h
  · intro rules rule h
    exact compile_withRules_eq fun name => target_withRule_generic h
  · intro rules rule
    refine ⟨fun e => compile_withRules_error_iff, fun c c' hc hc' => ?_, fun name => Claims.selects⟩
    exact redirected_of_compile (fun name h => (target_withRule_of_not_claims h).symm) hc hc'

/-- A rule for names that another rule covers, two rules whose starts have
nothing in common, a rule for all names, and a rule that takes a name over
which is written with an escape. -/
theorem compile_under_rule_changes_of_overlap :
    let nt : TypeRule := ⟨"nt:", .primaryType⟩
    let file : TypeRule := ⟨"nt:file", .mixinType⟩
    let mix : TypeRule := ⟨"mix:", .mixinType⟩
    let every : TypeRule := ⟨"", .generic⟩
    let under (rules : List TypeRule) :=
      compile (ParseOptions.default.withRules ⟨rules⟩) "Type(-nt:file, 'm\\ix:a', b)"
    (∃ earlier ∈ [nt], earlier.start.toList <+: file.start.toList) ∧ Independent nt mix ∧
      every.target = .generic ∧ under [nt, file, mix] = under [nt, mix] ∧
      under [nt, mix] = under [mix, nt] ∧ under [nt, every] = under [nt] ∧
      ∃ c c', under [nt] = .ok c ∧ under [nt, mix] = .ok c' ∧ (c.root == c'.root) = false ∧
        Redirected .default ⟨[nt]⟩ ⟨[nt, mix]⟩ (Claims ⟨[nt]⟩ mix) c.root c'.root := by
  have hdiffer : ((compile (ParseOptions.default.withRules ⟨[⟨"nt:", .primaryType⟩]⟩)
      "Type(-nt:file, 'm\\ix:a', b)").bind fun c =>
        (compile (ParseOptions.default.withRules
          ⟨[⟨"nt:", .primaryType⟩, ⟨"mix:", .mixinType⟩]⟩) "Type(-nt:file, 'm\\ix:a', b)").map
            fun c' => c.root == c'.root) = .ok false := by
    decide +kernel
  intro nt file mix every under
  obtain ⟨hshadowed, hswap, hgeneric, hadded⟩ :=
    compile_under_rule_changes .default "Type(-nt:file, 'm\\ix:a', b)"
  have hstart : ∃ earlier ∈ [nt], earlier.start.toList <+: file.start.toList :=
    ⟨nt, List.mem_singleton_self nt, by decide⟩
  have hindependent : Independent nt mix := by decide
  obtain ⟨c, hc, hdiffer⟩ := bind_eq_ok_iff.mp hdiffer
  obtain ⟨c', hc', hdiffer⟩ := map_eq_ok_iff.mp hdiffer
  obtain ⟨-, hredirected, -⟩ := hadded ⟨[nt]⟩ mix
  exact ⟨hstart, hindependent, rfl, hshadowed [nt] [mix] file hstart,
    hswap [] [] nt mix hindependent, hgeneric ⟨[nt]⟩ every rfl, c, c', hc, hc', hdiffer,
    hredirected c c' hc hc'⟩

end CompiledFilter

end NodeSieve
