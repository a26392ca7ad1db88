import Mathlib
import OpenApiLint.Proofs.Restrict
/-!
# Selecting built-in rules

A selector names a built-in rule or one of its codes, exactly as written.
`Rules.select` refuses the first selector, in list order, that names nothing;
otherwise it keeps the built-in rules some selector picks, in registration
order.  Since what it keeps is a filter of the registry, the selectors' order
and repetitions play no part, selecting from two lists in a row is the union
of the two selections, and a selection never repeats a rule, so it always
registers without a duplicate name.

## Main definitions

* `Rules.Known` — a selector that some built-in rule answers to.

## Main statements

* `Rules.select_eq_error_iff` — the first unknown selector is refused.
* `Rules.select_append_eq_ok_iff` — selecting from two lists is the union.
* `select_laws` — everything together.
-/

namespace OpenApiLint

namespace Rules

/-- A selector that some built-in rule answers to: its name, or the label of
one of its codes. -/
def Known (s : String) : Prop := ∃ r ∈ builtIn, r.name = s ∨ ∃ c ∈ r.codes, c.label = s

theorem picks_iff (r : Rule) (s : String) : r.picks s = true ↔ r.name = s ∨ ∃ c ∈ r.codes, c.label = s := by
  simp [Rule.picks]

theorem any_picks_iff (s : String) : builtIn.any (·.picks s) = true ↔ Known s := by
  simp only [List.any_eq_true, picks_iff, Known]

/-- **The first unknown selector is refused**: selection fails with `s`
exactly when every selector before `s` is known and `s` is not. -/
theorem select_eq_error_iff {S : List String} {s : String} :
    select S = .error s ↔ ∃ pre post, S = pre ++ s :: post ∧ (∀ t ∈ pre, Known t) ∧ ¬ Known s := by
  unfold select
  have hfind : S.find? (fun s => !builtIn.any (·.picks s)) = some s ↔
      ∃ pre post, S = pre ++ s :: post ∧ (∀ t ∈ pre, Known t) ∧ ¬ Known s := by
    simp only [List.find?_eq_some_iff_append, Bool.not_not, Bool.not_eq_eq_eq_not,
      Bool.not_true, any_picks_iff]
    constructor
    · rintro ⟨hs, pre, post, rfl, hpre⟩
      exact ⟨pre, post, rfl, hpre, fun h => by simp [(any_picks_iff s).2 h] at hs⟩
    · rintro ⟨pre, post, rfl, hpre, hs⟩
      refine ⟨Bool.eq_false_iff.2 fun h => hs ((any_picks_iff s).1 h), pre, post, rfl, hpre⟩
  rw [← hfind]
  cases S.find? (fun s => !builtIn.any (·.picks s)) with
  | none => simp
  | some u => simp

/-- Selection succeeds exactly when every selector is known. -/
theorem select_eq_ok_iff_known {S : List String} {sel : List Rule} :
    select S = .ok sel ↔ (∀ s ∈ S, Known s) ∧ sel = builtIn.filter fun r => S.any r.picks := by
  rw [select_eq_ok_iff]
  simp only [any_picks_iff]

/-- A successful selection depends only on which selectors occur. -/
theorem select_eq_ok_of_mem_iff {S S' : List String} (h : ∀ s, s ∈ S ↔ s ∈ S') {sel : List Rule}
    (hsel : select S = .ok sel) : select S' = .ok sel := by
  obtain ⟨hknown, rfl⟩ := select_eq_ok_iff_known.1 hsel
  refine select_eq_ok_iff_known.2 ⟨fun s hs => hknown s ((h s).2 hs), ?_⟩
  refine List.filter_congr fun r _ => ?_
  rw [Bool.eq_iff_iff]
  simp only [List.any_eq_true, h]

/-- Selection fails on two lists in a row at the first unknown selector of
the first list, else of the second. -/
theorem select_append_eq_error_iff {S₁ S₂ : List String} {s : String} :
    select (S₁ ++ S₂) = .error s ↔
      select S₁ = .error s ∨ (∃ A, select S₁ = .ok A) ∧ select S₂ = .error s := by
  simp only [select_eq_error_iff, select_eq_ok_iff_known, exists_eq_right]
  constructor
  · rintro ⟨pre, post, hS, hpre, hs⟩
    -- the refused selector stands in the first list or in the second
    rcases List.append_eq_append_iff.1 hS with ⟨a, rfl, h₂⟩ | ⟨c, rfl, h₂⟩
    · right
      refine ⟨fun t ht => hpre t (List.mem_append_left _ ht), a, post, h₂, ?_, hs⟩
      exact fun t ht => hpre t (List.mem_append_right _ ht)
    · cases c with
      | nil =>
        right
        refine ⟨fun t ht => hpre t (by simpa using ht), [], post, by simpa using h₂.symm, by simp, hs⟩
      | cons x c =>
        left
        simp only [List.cons_append, List.cons.injEq] at h₂
        obtain ⟨rfl, rfl⟩ := h₂
        exact ⟨pre, c, rfl, hpre, hs⟩
  · rintro (⟨pre, post, rfl, hpre, hs⟩ | ⟨hknown, pre, post, rfl, hpre, hs⟩)
    · exact ⟨pre, post ++ S₂, by simp, hpre, hs⟩
    · refine ⟨S₁ ++ pre, post, by simp, fun t ht => ?_, hs⟩
      rcases List.mem_append.1 ht with ht | ht
      · exact hknown t ht
      · exact hpre t ht

/-- **Selecting from two lists in a row is the union of the selections**:
the built-in rules, in registration order, that either selection holds. -/
theorem select_append_eq_ok_iff {S₁ S₂ : List String} {C : List Rule} :
    select (S₁ ++ S₂) = .ok C ↔ ∃ A B, select S₁ = .ok A ∧ select S₂ = .ok B ∧
      C = builtIn.filter fun r => A.any (·.name == r.name) || B.any (·.name == r.name) := by
  simp only [select_eq_ok_iff_known]
  constructor
  · rintro ⟨hknown, rfl⟩
    refine ⟨_, _, ⟨fun s hs => hknown s (List.mem_append_left _ hs), rfl⟩,
      ⟨fun s hs => hknown s (List.mem_append_right _ hs), rfl⟩, ?_⟩
    refine List.filter_congr fun r hr => ?_
    rw [any_name_filter_picks hr, any_name_filter_picks hr, List.any_append]
  · rintro ⟨A, B, ⟨hknown₁, rfl⟩, ⟨hknown₂, rfl⟩, rfl⟩
    refine ⟨fun s hs => ?_, ?_⟩
    · rcases List.mem_append.1 hs with hs | hs
      · exact hknown₁ s hs
      · exact hknown₂ s hs
    · refine List.filter_congr fun r hr => ?_
      rw [any_name_filter_picks hr, any_name_filter_picks hr, List.any_append]

/-- A selection never names a rule twice. -/
theorem names_nodup_of_select_eq_ok {S : List String} {sel : List Rule} (h : select S = .ok sel) :
    (sel.map Rule.name).Nodup := by
  obtain ⟨-, rfl⟩ := select_eq_ok_iff.1 h
  exact (List.filter_sublist.map Rule.name).nodup builtIn_names_nodup

end Rules

/-- Rules with distinct names never fail to build for a repeated name. -/
theorem Validator.build_ne_duplicateRule {R : List Rule} (h : (R.map Rule.name).Nodup) (c : Config)
    (n : String) : Validator.build R c ≠ .error (.duplicateRule n) := by
  rw [Ne, Validator.build_eq_error_duplicateRule_iff, Validator.firstRepeated_nil_eq_none_iff.2 h]
  simp

/-- **What selecting rules does.**  Selection refuses the first selector, in
list order, that names no built-in rule and none of their codes; otherwise it
gives the built-in rules some selector picks, in registration order.  So a
successful selection depends only on which selectors occur; selecting from
two lists in a row succeeds exactly when both selections do and gives their
union in registration order; and a selection never repeats a rule name, so
registering it never fails for a duplicate. -/
theorem select_laws (S : List String) :
    (∀ s, Rules.select S = .error s ↔
      ∃ pre post, S = pre ++ s :: post ∧ (∀ t ∈ pre, Rules.Known t) ∧ ¬ Rules.Known s) ∧
    (∀ sel, Rules.select S = .ok sel ↔
      (∀ s ∈ S, Rules.Known s) ∧ sel = Rules.builtIn.filter fun r => S.any r.picks) ∧
    (∀ S' sel, (∀ s, s ∈ S ↔ s ∈ S') → Rules.select S = .ok sel → Rules.select S' = .ok sel) ∧
    (∀ S₂ C, Rules.select (S ++ S₂) = .ok C ↔ ∃ A B, Rules.select S = .ok A ∧
      Rules.select S₂ = .ok B ∧
      C = Rules.builtIn.filter fun r => A.any (·.name == r.name) || B.any (·.name == r.name)) ∧
    (∀ sel, Rules.select S = .ok sel →
      (sel.map Rule.name).Nodup ∧ ∀ c n, Validator.build sel c ≠ .error (.duplicateRule n)) := by
  refine ⟨fun s => Rules.select_eq_error_iff, fun sel => Rules.select_eq_ok_iff_known,
    fun S' sel h => Rules.select_eq_ok_of_mem_iff h, fun S₂ C => Rules.select_append_eq_ok_iff,
    fun sel h => ?_⟩
  have hnames := Rules.names_nodup_of_select_eq_ok h
  exact ⟨hnames, Validator.build_ne_duplicateRule hnames⟩

example : (Rules.select ["ENUM_NOT_UPPER_SNAKE_CASE", "operation-description"]).map
      (·.map Rule.name) = .ok ["operation-description", "enum-upper-snake-case"] := rfl

example : (Rules.select ["POST_SHOULD_RETURN_201", "post-created-response", "Post-created-response",
      "x"]).map (·.map Rule.name) = .error "Post-created-response" := rfl

end OpenApiLint
