import Mathlib
import OpenApiLint.Proofs.Validate
import OpenApiLint.Cli.Run
import OpenApiLint.Proofs.KeyedList
/-!
# Narrowing a run to selected rules

The command line narrows a run to the rules that `--rules` selects by
switching the other built-in rules off in the configuration; the library
narrows by registering only the selected rules.  The two agree on every
document: switching a rule off removes exactly its share of the report, and
the shares of the rules left on do not change.  They differ only in what they
refuse: the configuration route still registers every built-in rule, so it
accepts settings for rules that were not selected.

## Main statements

* `lookup_insertSorted` — settings written for one name change only that name.
* `Config.ruleConfig?_disableUnless` — the settings after switching rules off.
* `Rules.select_eq_ok_iff` — when selection succeeds.
* `restrictTo_matches_select` — the two routes agree.
-/

namespace OpenApiLint

/-- Inserting a key changes the lookup of that key only. -/
theorem lookup_insertSorted {α : Type} (l : List (String × α)) (k : String) (v : α) (n : String) :
    KeyedList.lookup (insertSorted l k v) n = if n = k then some v else KeyedList.lookup l n := by
  induction l with
  | nil =>
    by_cases h : n = k
    · subst h; simp [insertSorted, KeyedList.lookup_cons]
    · simp [insertSorted, h, Ne.symm h, KeyedList.lookup]
  | cons e rest ih =>
    obtain ⟨k', v'⟩ := e
    rw [insertSorted]
    by_cases h : n = k
    · subst h
      rw [if_pos rfl]
      split_ifs with hlt heq
      · simp [KeyedList.lookup_cons]
      · simp [KeyedList.lookup_cons]
      · simp only [KeyedList.lookup_cons, ih, if_true, Ne.symm heq, if_false]
    · simp only [h, if_false]
      split_ifs with hlt heq
      · simp only [KeyedList.lookup_cons, Ne.symm h, if_false]
      · subst heq
        simp only [KeyedList.lookup_cons, Ne.symm h, if_false]
      · simp only [KeyedList.lookup_cons, ih, h, if_false]

/-- An entry after inserting a key is the new one or an old one. -/
theorem mem_insertSorted {α : Type} {l : List (String × α)} {k : String} {v : α}
    {e : String × α} (he : e ∈ insertSorted l k v) : e.1 = k ∨ e ∈ l := by
  induction l with
  | nil =>
    simp only [insertSorted, List.mem_singleton] at he
    exact .inl (by rw [he])
  | cons e' rest ih =>
    rw [insertSorted] at he
    split_ifs at he with hlt heq
    · rcases List.mem_cons.1 he with rfl | he
      · exact .inl rfl
      · exact .inr he
    · rcases List.mem_cons.1 he with rfl | he
      · exact .inl rfl
      · exact .inr (List.mem_cons_of_mem _ he)
    · rcases List.mem_cons.1 he with rfl | he
      · exact .inr List.mem_cons_self
      · exact (ih he).imp_right (List.mem_cons_of_mem _)

namespace Config

/-- The settings of a rule once it is switched off: its old ones, with
`enabled = false`. -/
def disabledSettings (c : Config) (name : String) : RuleConfig :=
  { (c.ruleConfig? name).getD {} with enabled := some false }

theorem ruleConfig?_disable (c : Config) (m n : String) :
    (c.disable m).ruleConfig? n = if n = m then some (c.disabledSettings m) else c.ruleConfig? n :=
  lookup_insertSorted c.rules m _ n

@[simp] theorem failOn_disable (c : Config) (m : String) : (c.disable m).failOn = c.failOn := rfl

/-- Switching off every rule of a list that a test does not keep. -/
def disableUnless (keep : Rule → Bool) (c : Config) (R : List Rule) : Config :=
  R.foldl (fun c r => if keep r then c else c.disable r.name) c

/-- After switching off the rules a test does not keep, a name carries the
switched-off settings exactly when some rule of that name is not kept. -/
theorem ruleConfig?_disableUnless (keep : Rule → Bool) (c : Config) (R : List Rule) (n : String) :
    (disableUnless keep c R).ruleConfig? n =
      if R.any (fun r => r.name == n && !keep r) then some (c.disabledSettings n)
      else c.ruleConfig? n := by
  induction R generalizing c with
  | nil => simp [disableUnless]
  | cons r R ih =>
    have hstep : disableUnless keep c (r :: R) =
        disableUnless keep (if keep r then c else c.disable r.name) R := rfl
    rw [hstep, ih]
    by_cases hk : keep r
    · simp [hk]
    · by_cases hn : r.name = n
      · subst hn
        -- switching a rule off twice leaves the settings of the first time
        simp [hk, disabledSettings, ruleConfig?_disable]
      · simp [hk, hn, disabledSettings, ruleConfig?_disable, Ne.symm hn]

theorem failOn_disableUnless (keep : Rule → Bool) (c : Config) (R : List Rule) :
    (disableUnless keep c R).failOn = c.failOn := by
  induction R generalizing c with
  | nil => rfl
  | cons r R ih =>
    show (disableUnless keep (if keep r then c else c.disable r.name) R).failOn = c.failOn
    rw [ih]
    split_ifs <;> rfl

/-- The rule names a configuration mentions after switching rules off: its own,
and the names of rules of the list. -/
theorem mem_rules_disableUnless {keep : Rule → Bool} {c : Config} {R : List Rule}
    {e : String × RuleConfig} (he : e ∈ (disableUnless keep c R).rules) :
    e ∈ c.rules ∨ ∃ r ∈ R, r.name = e.1 := by
  induction R generalizing c with
  | nil => exact .inl he
  | cons r R ih =>
    rcases ih he with he | ⟨r', hr', hn⟩
    · dsimp only at he
      split_ifs at he
      · exact .inl he
      · rcases mem_insertSorted (show e ∈ insertSorted c.rules _ _ from he) with hn | he
        · exact .inr ⟨r, List.mem_cons_self, hn.symm⟩
        · exact .inl he
    · exact .inr ⟨r', List.mem_cons_of_mem _ hr', hn⟩

end Config

namespace Config

theorem disableUnless_congr {keep keep' : Rule → Bool} (c : Config) {R : List Rule}
    (h : ∀ r ∈ R, keep r = keep' r) : disableUnless keep c R = disableUnless keep' c R := by
  induction R generalizing c with
  | nil => rfl
  | cons r R ih =>
    show disableUnless keep (if keep r then c else c.disable r.name) R =
      disableUnless keep' (if keep' r then c else c.disable r.name) R
    rw [h r List.mem_cons_self, ih _ fun r' hr' => h r' (List.mem_cons_of_mem _ hr')]

/-- A rule that is switched off contributes nothing. -/
theorem findings_of_ruleEnabled_eq_false {c : Config} (d : Document) {r : Rule}
    (h : c.ruleEnabled r.name = false) : c.findings d r = [] := by
  simp [findings, h]

end Config

namespace Rules

theorem builtIn_names_nodup : (builtIn.map Rule.name).Nodup := by decide

/-- Two built-in rules of the same name are the same rule. -/
theorem eq_of_name_eq {a b : Rule} (ha : a ∈ builtIn) (hb : b ∈ builtIn) (h : a.name = b.name) :
    a = b :=
  List.inj_on_of_nodup_map builtIn_names_nodup ha hb h

/-- **Selection succeeds exactly when** every selector picks some built-in
rule; it then gives the picked rules in registration order. -/
theorem select_eq_ok_iff {S : List String} {sel : List Rule} :
    select S = .ok sel ↔
      (∀ s ∈ S, builtIn.any (·.picks s)) ∧ sel = builtIn.filter fun r => S.any r.picks := by
  unfold select
  cases h : S.find? (fun s => !builtIn.any (·.picks s)) with
  | some s =>
    have hs := List.find?_some h
    have hmem := List.mem_of_find?_eq_some h
    simp only [reduceCtorEq, false_iff, not_and]
    intro hall
    simp [hall s hmem] at hs
  | none =>
    have hall : ∀ s ∈ S, builtIn.any (·.picks s) := by
      intro s hs
      simpa using List.find?_eq_none.1 h s hs
    simp only [Except.ok.injEq]
    exact ⟨fun h => ⟨hall, h.symm⟩, fun h => h.2.symm⟩

/-- Among the picked rules, a built-in rule is named exactly when it is picked. -/
theorem any_name_filter_picks {S : List String} {r : Rule} (hr : r ∈ builtIn) :
    (builtIn.filter fun r => S.any r.picks).any (·.name == r.name) = S.any r.picks := by
  cases hp : S.any r.picks
  · simp only [List.any_eq_false, List.mem_filter, beq_iff_eq]
    rintro r' ⟨hr', hpicked⟩ hn
    rw [eq_of_name_eq hr' hr hn, hp] at hpicked
    exact Bool.false_ne_true hpicked
  · exact List.any_eq_true.2 ⟨r, List.mem_filter.2 ⟨hr, hp⟩, by simp⟩

end Rules

namespace Validator

variable {d : Document}

/-- The rules of a list that a test keeps contribute what they contribute
within the whole list, the others nothing. -/
theorem validate_filter_rules (R : List Rule) (keep : Rule → Bool) (c : Config) :
    (Validator.mk (R.filter keep) c).validate d =
      R.flatMap fun r => if keep r then c.findings d r else [] := by
  induction R with
  | nil => rfl
  | cons r R ih =>
    by_cases hk : keep r
    · simp only [List.filter_cons, hk, if_true, List.flatMap_cons]
      exact congrArg (c.findings d r ++ ·) ih
    · simp only [List.filter_cons, hk, Bool.false_eq_true, if_false, List.flatMap_cons,
        List.nil_append]
      exact ih

/-- With the built-in rules, keeping the violations whose owner some selector
picks keeps exactly the picked rules' findings. -/
theorem filter_picked_validate_builtIn (S : List String) (c : Config) :
    ((Validator.mk Rules.builtIn c).validate d).filter
        (fun x => (Rules.builtIn.filter fun r => S.any r.picks).any (·.owns x.code)) =
      Rules.builtIn.flatMap fun r => if S.any r.picks then c.findings d r else [] := by
  rw [validate_eq_flatMap, List.filter_flatMap]
  refine List.flatMap_congr fun r hr => ?_
  have hkeep := Rules.keepsToCodes_of_mem_builtIn hr
  by_cases hp : S.any r.picks
  · rw [if_pos hp]
    refine List.filter_eq_self.2 fun x hx => ?_
    exact List.any_eq_true.2
      ⟨r, List.mem_filter.2 ⟨hr, hp⟩, Config.owns_of_mem_findings hkeep hx⟩
  · rw [if_neg hp]
    refine List.filter_eq_nil_iff.2 fun x hx hpicked => ?_
    -- the picked owner of the code would be `r` itself, which is not picked
    obtain ⟨r', hr', hown⟩ := List.any_eq_true.1 hpicked
    obtain ⟨hr'b, hp'⟩ := List.mem_filter.1 hr'
    have hname := Rules.name_eq_of_owns hr'b hr hown (Config.owns_of_mem_findings hkeep hx)
    rw [Rules.eq_of_name_eq hr'b hr hname] at hp'
    exact hp hp'

end Validator

/-- Switching off the built-in rules no selector picks leaves the picked ones
as configured and silences the others. -/
theorem validate_disableUnless_builtIn (S : List String) (c : Config) (d : Document) :
    (Validator.mk Rules.builtIn
        (Config.disableUnless (fun r => S.any r.picks) c Rules.builtIn)).validate d =
      Rules.builtIn.flatMap fun r => if S.any r.picks then c.findings d r else [] := by
  rw [Validator.validate_eq_flatMap]
  refine List.flatMap_congr fun r hr => ?_
  have hsettings := Config.ruleConfig?_disableUnless (fun r => S.any r.picks) c Rules.builtIn r.name
  by_cases hp : S.any r.picks
  · -- no rule of `r`'s name is switched off: that rule is `r`, and it is picked
    have hnone : (Rules.builtIn.any fun r' => r'.name == r.name && !S.any r'.picks) = false := by
      refine List.any_eq_false.2 fun r' hr' h => ?_
      simp only [Bool.and_eq_true, beq_iff_eq, Bool.not_eq_true'] at h
      rw [Rules.eq_of_name_eq hr' hr h.1, hp] at h
      exact Bool.false_ne_true h.2.symm
    have hsame : (Config.disableUnless (fun r => S.any r.picks) c Rules.builtIn).ruleConfig? r.name =
        c.ruleConfig? r.name := by
      rw [hsettings, hnone]
      rfl
    rw [if_pos hp, Config.findings_congr d r hsame]
  · have hsome : (Rules.builtIn.any fun r' => r'.name == r.name && !S.any r'.picks) = true :=
      List.any_eq_true.2 ⟨r, hr, by simp [hp]⟩
    rw [if_neg hp]
    refine Config.findings_of_ruleEnabled_eq_false d ?_
    simp [Config.ruleEnabled, hsettings, hsome, Config.disabledSettings]

theorem restrictTo_of_select_error {c : Config} {S : List String} {s : String}
    (h : Rules.select S = .error s) :
    restrictTo c S = .error { message := (LintError.unknownSelector s).message } := by
  simp [restrictTo, h]

/-- Narrowing switches off, one after the other, the built-in rules that no
selector picks. -/
theorem restrictTo_of_select_ok {c : Config} {S : List String} {sel : List Rule}
    (h : Rules.select S = .ok sel) :
    restrictTo c S = .ok (Config.disableUnless (fun r => S.any r.picks) c Rules.builtIn) := by
  obtain ⟨-, rfl⟩ := Rules.select_eq_ok_iff.1 h
  simp only [restrictTo, h]
  exact congrArg Except.ok
    (Config.disableUnless_congr c fun r hr => Rules.any_name_filter_picks hr)

/-- What narrowing a configuration `c` to the rules that selectors `S` pick
gives, when selection gives `sel`, measured against `c` itself and against
registering only `sel`. -/
structure NarrowsTo (c : Config) (S : List String) (sel : List Rule) (c' : Config)
    (d : Document) : Prop where
  failOn_eq : c'.failOn = c.failOn
  ruleConfig?_eq : ∀ n, c'.ruleConfig? n =
    if Rules.builtIn.any (fun r => r.name == n && !S.any r.picks) then some (c.disabledSettings n)
    else c.ruleConfig? n
  builds : Validator.build Rules.builtIn c' = .ok ⟨Rules.builtIn, c'⟩
  validate_eq : (Validator.mk Rules.builtIn c').validate d =
    ((Validator.mk Rules.builtIn c).validate d).filter fun x => sel.any (·.owns x.code)
  selected_builds_iff :
    (∃ v, Validator.build sel c = .ok v) ↔ ∀ e ∈ c.rules, ∃ r ∈ sel, r.name = e.1
  selected_validate : ∀ v, Validator.build sel c = .ok v →
    v.validate d = ((Validator.mk Rules.builtIn c).validate d).filter fun x => sel.any (·.owns x.code)

/-- **Narrowing by configuration agrees with narrowing by registration.**  For a
configuration that names only built-in rules, narrowing it to what selectors
pick fails exactly when selection fails; otherwise it only switches off the
rules no selector picks, keeps `fail-on`, still builds with all built-in rules,
and reports exactly the picked rules' share of the full report, which is also
what registering only the picked rules reports whenever that builds. -/
theorem restrictTo_matches_select (c : Config) (S : List String) (d : Document)
    (hkeys : ∀ e ∈ c.rules, ∃ r ∈ Rules.builtIn, r.name = e.1) :
    (∀ s, Rules.select S = .error s →
      restrictTo c S = .error { message := (LintError.unknownSelector s).message }) ∧
    ∀ sel, Rules.select S = .ok sel → ∃ c', restrictTo c S = .ok c' ∧ NarrowsTo c S sel c' d := by
  refine ⟨fun s h => restrictTo_of_select_error h, fun sel h => ⟨_, restrictTo_of_select_ok h, ?_⟩⟩
  obtain ⟨-, hsel⟩ := Rules.select_eq_ok_iff.1 h
  have hshare := Validator.filter_picked_validate_builtIn (d := d) S c
  rw [← hsel] at hshare
  have hsub : (sel.map Rule.name).Nodup :=
    hsel ▸ (List.filter_sublist.map Rule.name).nodup Rules.builtIn_names_nodup
  refine ⟨Config.failOn_disableUnless _ c _, Config.ruleConfig?_disableUnless _ c _, ?_, ?_, ?_, ?_⟩
  · refine Validator.build_eq_ok_iff.2 ⟨Rules.builtIn_names_nodup, fun e he => ?_, rfl⟩
    rcases Config.mem_rules_disableUnless he with he | hname
    · exact hkeys e he
    · exact hname
  · rw [hshare, validate_disableUnless_builtIn]
  · constructor
    · rintro ⟨v, hv⟩
      exact (Validator.build_eq_ok_iff.1 hv).2.1
    · intro hall
      exact ⟨_, Validator.build_eq_ok_iff.2 ⟨hsub, hall, rfl⟩⟩
  · intro v hv
    obtain ⟨-, -, rfl⟩ := Validator.build_eq_ok_iff.1 hv
    rw [hshare, hsel, Validator.validate_filter_rules]

/-- Narrowing to two rules, one picked by a code, under a configuration that
re-grades a picked rule. -/
theorem restrictTo_matches_select_two_selectors :
    (∀ e ∈ [("operation-description", ({ severity := some .warning } : RuleConfig))],
      ∃ r ∈ Rules.builtIn, r.name = e.1) ∧
    ((∀ s, Rules.select ["GENERIC_ID_PARAMETER_NAME", "operation-description"] = .error s →
      restrictTo { rules := [("operation-description", { severity := some .warning })] }
          ["GENERIC_ID_PARAMETER_NAME", "operation-description"] =
        .error { message := (LintError.unknownSelector s).message }) ∧
    ∀ sel, Rules.select ["GENERIC_ID_PARAMETER_NAME", "operation-description"] = .ok sel →
      ∃ c', restrictTo { rules := [("operation-description", { severity := some .warning })] }
          ["GENERIC_ID_PARAMETER_NAME", "operation-description"] = .ok c' ∧
        NarrowsTo { rules := [("operation-description", { severity := some .warning })] }
          ["GENERIC_ID_PARAMETER_NAME", "operation-description"] sel c' {}) := by
  have hkeys : ∀ e ∈ [("operation-description", ({ severity := some .warning } : RuleConfig))],
      ∃ r ∈ Rules.builtIn, r.name = e.1 := by
    simp only [List.mem_singleton, forall_eq]
    exact ⟨Rules.operationDescription, by simp [Rules.builtIn], rfl⟩
  exact ⟨hkeys, restrictTo_matches_select _ _ {} hkeys⟩

end OpenApiLint
