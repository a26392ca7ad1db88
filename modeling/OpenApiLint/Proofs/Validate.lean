import Mathlib
import OpenApiLint.Lint.Validator
/-!
# What a validator reports, rule by rule

A validator runs its rules one after the other and concatenates what they
find.  When every rule reports only codes it declares, and no two rules declare
a common code, the output falls apart cleanly along the rules: each violation
has exactly one owner, the owners come in registration order, a rule's share is
its own check at the severity that applies (or nothing when it is switched
off), and a change to one rule's settings touches no other rule's share.

The five built-in rules are such a family: each keeps to the codes it declares,
and the six codes are split between them.  So every choice of distinct built-in
rules, in any order and under any configuration that names only them, reports
this way.

## Main statements

* `Validator.filter_owns_validate` — a rule's share of the output.
* `Validator.filter_not_owns_validate_congr` — the rest of the output does not
  depend on one rule's settings.
* `Validator.ownerIndex_validate_sorted` — owners in registration order.
* `Validator.build_eq_ok_iff` — when building succeeds.
* `validate_groups_by_rule` — all of it, for the built-in rules.
-/

namespace OpenApiLint

namespace Rule

/-- A rule owns a code when it declares it. -/
def owns (r : Rule) (c : Code) : Bool := r.codes.contains c

/-- A rule keeps to its codes when every violation its check reports carries
one of them. -/
def KeepsToCodes (r : Rule) : Prop := ∀ d, ∀ x ∈ r.check d, r.owns x.code

end Rule

/-- Rules that share no code: of two registrations, the later owns no code of
the earlier. -/
def CodesDisjoint (R : List Rule) : Prop := R.Pairwise fun a b => ∀ c, a.owns c → b.owns c = false

/-! ## The codes each built-in rule reports -/

namespace Rules

theorem code_of_mem_checkOperationDescription {d : Document} {x : Violation}
    (hx : x ∈ checkOperationDescription d) : x.code = .missingOperationDescription := by
  obtain ⟨⟨path, m, op⟩, -, h⟩ := List.mem_filterMap.1 hx
  by_cases hd : op.hasDescription
  · simp [hd] at h
  · simp only [hd] at h
    cases h
    rfl

theorem code_of_mem_checkPropertyNameCase {d : Document} {x : Violation}
    (hx : x ∈ checkPropertyNameCase d) : x.code = .invalidPropertyNameCase := by
  obtain ⟨⟨name, s⟩, -, hs⟩ := List.mem_flatMap.1 hx
  obtain ⟨⟨prop, ps⟩, -, h⟩ := List.mem_filterMap.1 hs
  by_cases hc : Text.isLowerCamelCase prop.toList
  · simp [hc] at h
  · simp only [hc] at h
    cases h
    rfl

theorem code_of_mem_checkPostCreatedResponse {d : Document} {x : Violation}
    (hx : x ∈ checkPostCreatedResponse d) :
    x.code = .postMissingResponses ∨ x.code = .postShouldReturn201 := by
  obtain ⟨⟨path, item⟩, -, h⟩ := List.mem_filterMap.1 hx
  obtain ⟨op, -, h⟩ := Option.bind_eq_some_iff.1 h
  simp only [checkPost] at h
  split at h
  · cases h; exact .inl rfl
  · split at h
    · cases h
    · cases h; exact .inr rfl

theorem code_of_mem_checkParameters {path : String} {m : Option Method} {ps : List Parameter}
    {x : Violation} (hx : x ∈ checkParameters path m ps) : x.code = .genericIdParameterName := by
  obtain ⟨p, -, h⟩ := List.mem_filterMap.1 hx
  split at h
  · split at h
    · cases h; rfl
    · cases h
  · cases h

theorem code_of_mem_checkNoGenericIdParameter {d : Document} {x : Violation}
    (hx : x ∈ checkNoGenericIdParameter d) : x.code = .genericIdParameterName := by
  obtain ⟨⟨path, item⟩, -, h⟩ := List.mem_flatMap.1 hx
  rcases List.mem_append.1 h with h | h
  · exact code_of_mem_checkParameters h
  · obtain ⟨⟨m, op⟩, -, h⟩ := List.mem_flatMap.1 h
    exact code_of_mem_checkParameters h

theorem code_of_mem_checkEnum {s : Schema} {location : String} {x : Violation}
    (hx : x ∈ checkEnum s location) : x.code = .enumNotUpperSnakeCase := by
  obtain ⟨v, -, h⟩ := List.mem_filterMap.1 hx
  split at h
  · cases h
  · cases h; rfl

theorem code_of_mem_checkEnumUpperSnakeCase {d : Document} {x : Violation}
    (hx : x ∈ checkEnumUpperSnakeCase d) : x.code = .enumNotUpperSnakeCase := by
  obtain ⟨⟨name, s⟩, -, h⟩ := List.mem_flatMap.1 hx
  rcases List.mem_append.1 h with h | h
  · exact code_of_mem_checkEnum h
  · obtain ⟨⟨prop, ps⟩, -, h⟩ := List.mem_flatMap.1 h
    cases ps with
    | none => simp at h
    | some ps => exact code_of_mem_checkEnum h

/-- Each built-in rule reports only the codes it declares. -/
theorem keepsToCodes_of_mem_builtIn {r : Rule} (hr : r ∈ builtIn) : r.KeepsToCodes := by
  simp only [builtIn, List.mem_cons, List.not_mem_nil, or_false] at hr
  rcases hr with rfl | rfl | rfl | rfl | rfl <;> intro d x hx
  · simp [Rule.owns, operationDescription, code_of_mem_checkOperationDescription hx]
  · simp [Rule.owns, propertyNameCase, code_of_mem_checkPropertyNameCase hx]
  · rcases code_of_mem_checkPostCreatedResponse hx with h | h <;>
      simp [Rule.owns, postCreatedResponse, h]
  · simp [Rule.owns, noGenericIdParameter, code_of_mem_checkNoGenericIdParameter hx]
  · simp [Rule.owns, enumUpperSnakeCase, code_of_mem_checkEnumUpperSnakeCase hx]

/-- The six codes are split between the built-in rules: two built-in rules that
own a common code are the same rule, by name. -/
theorem name_eq_of_owns {a b : Rule} (ha : a ∈ builtIn) (hb : b ∈ builtIn) {c : Code}
    (hac : a.owns c) (hbc : b.owns c) : a.name = b.name := by
  simp only [builtIn, List.mem_cons, List.not_mem_nil, or_false] at ha hb
  revert hac hbc
  rcases ha with rfl | rfl | rfl | rfl | rfl <;> rcases hb with rfl | rfl | rfl | rfl | rfl <;>
    cases c <;> decide

/-- Built-in rules with distinct names share no code. -/
theorem codesDisjoint_of_nodup {R : List Rule} (hR : ∀ r ∈ R, r ∈ builtIn)
    (hnames : (R.map Rule.name).Nodup) : CodesDisjoint R := by
  refine (List.pairwise_map.1 hnames).imp_of_mem fun {a b} ha hb hne c hac => ?_
  cases hbc : b.owns c
  · rfl
  · exact absurd (name_eq_of_owns (hR a ha) (hR b hb) hac hbc) hne

/-- Every built-in rule reports at `error` unless configured otherwise. -/
theorem defaultSeverity_of_mem_builtIn {r : Rule} (hr : r ∈ builtIn) :
    r.defaultSeverity = .error := by
  simp only [builtIn, List.mem_cons, List.not_mem_nil, or_false] at hr
  rcases hr with rfl | rfl | rfl | rfl | rfl <;> rfl

end Rules


/-! ## The output of a validator -/

namespace Config

/-- What one rule contributes to a validation under a configuration: nothing
when it is switched off, else its check at the severity that applies. -/
def findings (c : Config) (d : Document) (r : Rule) : List Violation :=
  if c.ruleEnabled r.name then
    (r.check d).map fun x => { x with severity := (c.ruleSeverity r.name).getD r.defaultSeverity }
  else []

theorem owns_of_mem_findings {c : Config} {d : Document} {r : Rule} {x : Violation}
    (hr : r.KeepsToCodes) (hx : x ∈ c.findings d r) : r.owns x.code := by
  unfold findings at hx
  split at hx
  · obtain ⟨y, hy, rfl⟩ := List.mem_map.1 hx
    exact hr d y hy
  · simp at hx

/-- Two configurations that hold the same settings for a rule give it the same findings. -/
theorem findings_congr {c c' : Config} (d : Document) (r : Rule)
    (h : c.ruleConfig? r.name = c'.ruleConfig? r.name) : c.findings d r = c'.findings d r := by
  unfold findings ruleEnabled ruleSeverity
  rw [h]

end Config

namespace Validator

variable {v : Validator} {d : Document}

theorem validate_eq_flatMap (v : Validator) (d : Document) :
    v.validate d = v.rules.flatMap (v.config.findings d) := rfl

theorem exists_owner_of_mem_validate (hkeep : ∀ r ∈ v.rules, r.KeepsToCodes) {x : Violation}
    (hx : x ∈ v.validate d) : ∃ r ∈ v.rules, r.owns x.code := by
  obtain ⟨r, hr, hx⟩ := List.mem_flatMap.1 hx
  exact ⟨r, hr, Config.owns_of_mem_findings (hkeep r hr) hx⟩

/-- Rules that own none of `r`'s codes contribute nothing to `r`'s share. -/
theorem filter_owns_flatMap_eq_nil {c : Config} {L : List Rule} {r : Rule}
    (hkeep : ∀ r' ∈ L, r'.KeepsToCodes) (hother : ∀ r' ∈ L, ∀ k, r'.owns k → r.owns k = false) :
    (L.flatMap (c.findings d)).filter (fun x => r.owns x.code) = [] := by
  refine List.filter_eq_nil_iff.2 fun x hx => ?_
  obtain ⟨r', hr', hx⟩ := List.mem_flatMap.1 hx
  simp [hother r' hr' x.code (Config.owns_of_mem_findings (hkeep r' hr') hx)]

/-- **A rule's share of the output** is its own findings: the rules before and
after it report codes it does not own. -/
theorem filter_owns_validate (hkeep : ∀ r ∈ v.rules, r.KeepsToCodes)
    (hdisj : CodesDisjoint v.rules) {r : Rule} (hr : r ∈ v.rules) :
    (v.validate d).filter (fun x => r.owns x.code) = v.config.findings d r := by
  obtain ⟨L₁, L₂, hsplit⟩ := List.append_of_mem hr
  have hpair := hsplit ▸ hdisj
  simp only [CodesDisjoint, List.pairwise_append, List.pairwise_cons, List.mem_cons] at hpair
  obtain ⟨-, ⟨hafter, -⟩, hbefore⟩ := hpair
  have hkeep' : ∀ r' ∈ L₁ ++ r :: L₂, r'.KeepsToCodes := hsplit ▸ hkeep
  rw [validate_eq_flatMap, hsplit, List.flatMap_append, List.flatMap_cons, List.filter_append,
    List.filter_append]
  -- the rules before `r` own no code of `r` by disjointness; nor do those after,
  -- by disjointness read the other way
  have h₁ : (L₁.flatMap (v.config.findings d)).filter (fun x => r.owns x.code) = [] :=
    filter_owns_flatMap_eq_nil (fun r' hr' => hkeep' r' (by simp [hr']))
      fun r' hr' => hbefore r' hr' r (.inl rfl)
  have h₂ : (v.config.findings d r).filter (fun x => r.owns x.code) = v.config.findings d r :=
    List.filter_eq_self.2 fun x hx => Config.owns_of_mem_findings (hkeep' r (by simp)) hx
  have h₃ : (L₂.flatMap (v.config.findings d)).filter (fun x => r.owns x.code) = [] :=
    filter_owns_flatMap_eq_nil (fun r' hr' => hkeep' r' (by simp [hr'])) fun r' hr' k hk => by
      cases h : r.owns k
      · rfl
      · simp [hafter r' hr' k h] at hk
  rw [h₁, h₂, h₃, List.nil_append, List.append_nil]

/-- **Switching or re-grading one rule leaves the other rules' findings alone**:
two configurations that differ only in the settings of `r` give the same
violations outside `r`'s codes. -/
theorem filter_not_owns_validate_congr {R : List Rule} {c c' : Config}
    (hkeep : ∀ r ∈ R, r.KeepsToCodes) (hnames : (R.map Rule.name).Nodup) {r : Rule} (hr : r ∈ R)
    (hagree : ∀ n, n ≠ r.name → c.ruleConfig? n = c'.ruleConfig? n) :
    ((Validator.mk R c).validate d).filter (fun x => !r.owns x.code) =
      ((Validator.mk R c').validate d).filter (fun x => !r.owns x.code) := by
  rw [validate_eq_flatMap, validate_eq_flatMap, List.filter_flatMap, List.filter_flatMap]
  refine List.flatMap_congr fun r' hr' => ?_
  by_cases hn : r'.name = r.name
  · -- the only rule named `r.name` is `r` itself, whose findings all carry its codes
    obtain rfl := List.inj_on_of_nodup_map hnames hr' hr hn
    have hnone : ∀ c₀ : Config, (c₀.findings d r').filter (fun x => !r'.owns x.code) = [] :=
      fun c₀ => List.filter_eq_nil_iff.2 fun x hx => by
        simp [Config.owns_of_mem_findings (hkeep r' hr') hx]
    rw [hnone, hnone]
  · rw [Config.findings_congr d r' (hagree _ hn)]

/-- Among code-disjoint rules, a code some rule owns has exactly one owner. -/
theorem countP_owns_eq_one {R : List Rule} (hdisj : CodesDisjoint R) {c : Code}
    (hc : ∃ r ∈ R, r.owns c) : R.countP (·.owns c) = 1 := by
  induction R with
  | nil => simp at hc
  | cons a R ih =>
    simp only [CodesDisjoint, List.pairwise_cons] at hdisj
    obtain ⟨hhead, htail⟩ := hdisj
    rw [List.countP_cons]
    by_cases ha : a.owns c
    · have hzero : R.countP (·.owns c) = 0 :=
        List.countP_eq_zero.2 fun b hb => by simp [hhead b hb c ha]
      simp [hzero, ha]
    · have hc' : ∃ r ∈ R, r.owns c := by
        obtain ⟨r, hr, hown⟩ := hc
        rcases List.mem_cons.1 hr with rfl | hr
        · exact absurd hown ha
        · exact ⟨r, hr, hown⟩
      simp [ih htail hc', ha]

/-- The position of the rule that owns a code. -/
def ownerIndex (R : List Rule) (c : Code) : Nat := R.findIdx (·.owns c)

/-- **Owners come in registration order**: along the output the positions of the
owning rules never decrease. -/
theorem ownerIndex_validate_sorted {R : List Rule} {c : Config}
    (hkeep : ∀ r ∈ R, r.KeepsToCodes) (hdisj : CodesDisjoint R) :
    (((Validator.mk R c).validate d).map fun x => ownerIndex R x.code).Pairwise (· ≤ ·) := by
  induction R with
  | nil => simp [validate_eq_flatMap]
  | cons a R ih =>
    simp only [CodesDisjoint, List.pairwise_cons] at hdisj
    obtain ⟨hhead, htail⟩ := hdisj
    have hkeepR : ∀ r ∈ R, r.KeepsToCodes := fun r hr => hkeep r (List.mem_cons_of_mem a hr)
    -- `a`'s findings sit at position zero, and every later finding one past its
    -- position among the remaining rules
    have hfirst : ∀ x ∈ c.findings d a, ownerIndex (a :: R) x.code = 0 := fun x hx => by
      simp [ownerIndex, List.findIdx_cons,
        Config.owns_of_mem_findings (hkeep a List.mem_cons_self) hx]
    have hrest : ∀ x ∈ (Validator.mk R c).validate d,
        ownerIndex (a :: R) x.code = ownerIndex R x.code + 1 := fun x hx => by
      obtain ⟨r, hr, hown⟩ := exists_owner_of_mem_validate hkeepR hx
      have ha : a.owns x.code = false := by
        cases h : a.owns x.code
        · rfl
        · simp [hhead r hr _ h] at hown
      simp [ownerIndex, List.findIdx_cons, ha]
    have hsplit : (Validator.mk (a :: R) c).validate d =
        c.findings d a ++ (Validator.mk R c).validate d := rfl
    rw [hsplit, List.map_append, List.map_congr_left hfirst,
      List.map_congr_left hrest, List.pairwise_append]
    refine ⟨List.pairwise_map.2 (List.pairwise_of_forall fun _ _ => le_refl 0), ?_, ?_⟩
    · have := ih hkeepR htail
      rw [List.pairwise_map] at this ⊢
      exact this.imp Nat.succ_le_succ
    · intro i hi j _
      obtain ⟨_, _, rfl⟩ := List.mem_map.1 hi
      exact Nat.zero_le j

end Validator

/-! ## Building a validator -/

namespace Validator

/-- No rule repeats a name, earlier or already seen, exactly when the names are
distinct and none of them was seen. -/
theorem firstRepeated_eq_none_iff {seen : List String} {R : List Rule} :
    firstRepeated seen R = none ↔ (R.map Rule.name).Nodup ∧ ∀ r ∈ R, r.name ∉ seen := by
  induction R generalizing seen with
  | nil => simp [firstRepeated]
  | cons a R ih =>
    by_cases ha : a.name ∈ seen
    · simp [firstRepeated, ha]
    · simp only [firstRepeated, List.contains_iff_mem, ha, if_false, ih, List.map_cons, List.nodup_cons, List.mem_map, List.mem_cons,
        forall_eq_or_imp, not_false_eq_true, true_and]
      constructor
      · rintro ⟨hnodup, hfresh⟩
        exact ⟨⟨fun ⟨r, hr, hn⟩ => hfresh r hr (.inl hn), hnodup⟩,
          fun r hr h => hfresh r hr (.inr h)⟩
      · rintro ⟨⟨hnew, hnodup⟩, hfresh⟩
        refine ⟨hnodup, fun r hr h => ?_⟩
        rcases h with h | h
        · exact hnew ⟨r, hr, h⟩
        · exact hfresh r hr h

theorem firstRepeated_nil_eq_none_iff {R : List Rule} :
    firstRepeated [] R = none ↔ (R.map Rule.name).Nodup := by
  simp [firstRepeated_eq_none_iff]

/-- The duplicate error comes from the scan alone. -/
theorem build_eq_error_duplicateRule_iff {R : List Rule} {c : Config} {n : String} :
    build R c = .error (.duplicateRule n) ↔ firstRepeated [] R = some n := by
  unfold build
  cases firstRepeated [] R with
  | some m => simp
  | none =>
    dsimp only
    split <;> simp

/-- **Building succeeds exactly when** the rule names are distinct and every
configured rule name is registered; the validator is then the rules with the
configuration. -/
theorem build_eq_ok_iff {R : List Rule} {c : Config} {v : Validator} :
    build R c = .ok v ↔
      (R.map Rule.name).Nodup ∧ (∀ e ∈ c.rules, ∃ r ∈ R, r.name = e.1) ∧ v = ⟨R, c⟩ := by
  have hnames := @firstRepeated_nil_eq_none_iff R
  unfold build
  cases hrep : firstRepeated [] R with
  | some n => simp [← hnames, hrep]
  | none =>
    -- split on the search for an unregistered name, as `build` states it
    dsimp only
    split
    next n rc hkey =>
      have hmem := List.mem_of_find?_eq_some hkey
      have hout := List.find?_some hkey
      simp only [Bool.not_eq_true', List.any_eq_false, beq_iff_eq] at hout
      simp only [reduceCtorEq, false_iff, not_and]
      intro _ hall
      obtain ⟨r, hr, hn⟩ := hall _ hmem
      exact absurd hn (hout r hr)
    next hkey =>
      have hall : ∀ e ∈ c.rules, ∃ r ∈ R, r.name = e.1 := by
        intro e he
        have := List.find?_eq_none.1 hkey e he
        simpa using this
      simp only [Except.ok.injEq, hnames.1 hrep, true_and]
      exact ⟨fun h => ⟨hall, h.symm⟩, fun h => h.2.symm⟩

end Validator

/-! ## Distinct built-in rules report rule by rule -/

/-- What a validation with rules `R` and configuration `c` reports on a
document `d`, rule by rule. -/
structure ReportsByRule (R : List Rule) (c : Config) (d : Document) : Prop where
  owner_unique : ∀ x ∈ (Validator.mk R c).validate d, R.countP (·.owns x.code) = 1
  owners_sorted :
    (((Validator.mk R c).validate d).map fun x => Validator.ownerIndex R x.code).Pairwise (· ≤ ·)
  share : ∀ r ∈ R, ((Validator.mk R c).validate d).filter (fun x => r.owns x.code) =
    if c.ruleEnabled r.name then
      (r.check d).map fun x => { x with severity := (c.ruleSeverity r.name).getD .error }
    else []
  others_unchanged : ∀ r ∈ R, ∀ c' : Config,
    (∀ n, n ≠ r.name → c.ruleConfig? n = c'.ruleConfig? n) →
      ((Validator.mk R c).validate d).filter (fun x => !r.owns x.code) =
        ((Validator.mk R c').validate d).filter (fun x => !r.owns x.code)

/-- **Distinct built-in rules, in any order, report rule by rule.**  For
built-in rules with distinct names and a configuration that names only them,
the validator builds, and on every document each violation has one owner, the
owners come in registration order, each rule contributes exactly its own check
at its configured severity (else `error`) unless switched off, and changing one
rule's settings leaves the rest of the output as it was. -/
theorem validate_groups_by_rule {R : List Rule} {c : Config} (d : Document)
    (hR : ∀ r ∈ R, r ∈ Rules.builtIn) (hnames : (R.map Rule.name).Nodup)
    (hkeys : ∀ e ∈ c.rules, ∃ r ∈ R, r.name = e.1) :
    Validator.build R c = .ok ⟨R, c⟩ ∧ ReportsByRule R c d := by
  have hkeep : ∀ r ∈ R, r.KeepsToCodes := fun r hr => Rules.keepsToCodes_of_mem_builtIn (hR r hr)
  have hdisj : CodesDisjoint R := Rules.codesDisjoint_of_nodup hR hnames
  refine ⟨Validator.build_eq_ok_iff.2 ⟨hnames, hkeys, rfl⟩, ⟨?_, ?_, ?_, ?_⟩⟩
  · intro x hx
    exact Validator.countP_owns_eq_one hdisj (Validator.exists_owner_of_mem_validate hkeep hx)
  · exact Validator.ownerIndex_validate_sorted hkeep hdisj
  · intro r hr
    rw [Validator.filter_owns_validate hkeep hdisj hr, Config.findings,
      Rules.defaultSeverity_of_mem_builtIn (hR r hr)]
  · intro r hr c' hagree
    exact Validator.filter_not_owns_validate_congr hkeep hnames hr hagree

/-- Two built-in rules in reverse order, the first switched off. -/
theorem validate_groups_by_rule_reordered :
    ((∀ r ∈ [Rules.enumUpperSnakeCase, Rules.operationDescription], r ∈ Rules.builtIn) ∧
      ([Rules.enumUpperSnakeCase, Rules.operationDescription].map Rule.name).Nodup ∧
      ∀ e ∈ [("enum-upper-snake-case", ({ enabled := some false } : RuleConfig))],
        ∃ r ∈ [Rules.enumUpperSnakeCase, Rules.operationDescription], r.name = e.1) ∧
    Validator.build [Rules.enumUpperSnakeCase, Rules.operationDescription]
        { rules := [("enum-upper-snake-case", { enabled := some false })] } =
      .ok ⟨[Rules.enumUpperSnakeCase, Rules.operationDescription],
        { rules := [("enum-upper-snake-case", { enabled := some false })] }⟩ ∧
    ReportsByRule [Rules.enumUpperSnakeCase, Rules.operationDescription]
      { rules := [("enum-upper-snake-case", { enabled := some false })] } {} := by
  have hR : ∀ r ∈ [Rules.enumUpperSnakeCase, Rules.operationDescription], r ∈ Rules.builtIn := by
    simp [Rules.builtIn]
  have hkeys : ∀ e ∈ [("enum-upper-snake-case", ({ enabled := some false } : RuleConfig))],
      ∃ r ∈ [Rules.enumUpperSnakeCase, Rules.operationDescription], r.name = e.1 := by
    simp [Rules.enumUpperSnakeCase]
  exact ⟨⟨hR, by decide, hkeys⟩, validate_groups_by_rule {} hR (by decide) hkeys⟩

end OpenApiLint
