import Mathlib
import OpenApiLint.Lint.Violation
/-!
# What a lint result counts

A lint result is read four ways: counted by severity, counted by code, asked
whether some violation reaches a threshold, and printed as a test report.  All
four agree with the severity order `info < warning < error`: the counts by
severity split the violations three ways, the counts by code split them by
code with no empty entry, the threshold test holds exactly when some violation
reaches the threshold (so a stricter threshold is passed less often), and the
report lists exactly the violations at or above the threshold, in order, with
the counts by severity in its totals line.

The counts are kept as a run keeps them: the severities are tallied violation
by violation, and the codes go into a table sorted by code, one bump per
violation.  `foldl_tally` and `foldl_bumpCount` say what the two folds count,
and everything else is stated on those counts.

## Main definitions

* the linear order on `Severity`, by rank.
* `LintResult.codeTable` — the nonzero counts of a list of codes, in its order.

## Main statements

* `LintResult.foldl_tally`, `LintResult.foldl_bumpCount` — what the two folds count.
* `LintResult.countBySeverity_sum` — the three counts add up to all violations.
* `LintResult.mem_countByCode_iff`, `LintResult.sum_countByCode` — counts by code.
* `LintResult.hasViolationsAt_iff`, `LintResult.hasViolationsAt_antitone`.
* `LintResult.testReport_eq` — the report, part by part.
* `lintResult_counts` — all of it.
-/

namespace OpenApiLint

namespace Severity

theorem rank_injective : Function.Injective rank := by
  intro a b h
  cases a <;> cases b <;> simp_all [rank]

/-- Severities are ordered by rank: `info < warning < error`. -/
instance : LinearOrder Severity := LinearOrder.lift' rank rank_injective

theorem le_iff_rank_le {a b : Severity} : a ≤ b ↔ a.rank ≤ b.rank := Iff.rfl

/-- `atLeast` is the order read backwards. -/
@[simp] theorem atLeast_iff {a b : Severity} : a.atLeast b = true ↔ b ≤ a := by
  simp [atLeast, le_iff_rank_le]

theorem atLeast_eq_decide (a b : Severity) : a.atLeast b = decide (b ≤ a) := by
  simp [atLeast, le_iff_rank_le]

/-- Nothing is more serious than an error. -/
theorem error_le_iff {a : Severity} : Severity.error ≤ a ↔ a = .error := by
  cases a <;> simp [le_iff_rank_le, rank]

end Severity

namespace LintResult

variable (r : LintResult)

/-! ## Counting by severity -/

/-- Tallying adds to each count the violations of its severity. -/
theorem foldl_tally (vs : List Violation) (e w i : Nat) :
    vs.foldl tally (e, w, i) = (e + vs.countP (·.severity = .error),
      w + vs.countP (·.severity = .warning), i + vs.countP (·.severity = .info)) := by
  induction vs generalizing e w i with
  | nil => rfl
  | cons v vs ih =>
    rw [List.foldl_cons]
    -- the violation goes to the count of its own severity, and the rest is tallied after it
    cases h : v.severity <;> simp [tally, h, ih] <;> omega

theorem countBySeverity_eq :
    r.countBySeverity = (r.violations.countP (·.severity = .error),
      r.violations.countP (·.severity = .warning), r.violations.countP (·.severity = .info)) := by
  simp [countBySeverity, foldl_tally]

/-- **The counts by severity add up to all violations.** -/
theorem countBySeverity_sum :
    r.countBySeverity.1 + r.countBySeverity.2.1 + r.countBySeverity.2.2 = r.violations.length := by
  rw [countBySeverity_eq]
  dsimp only
  induction r.violations with
  | nil => rfl
  | cons v vs ih =>
    -- each violation adds one to the count of its own severity
    cases h : v.severity <;> simp [h] <;> omega

/-! ## Counting by code -/

/-- The number of violations with a code. -/
def countOfCode (c : Code) : Nat := (r.violations.filter (·.code == c)).length

theorem countOfCode_eq_countP (c : Code) : r.countOfCode c = r.violations.countP (·.code = c) := by
  simp [countOfCode, List.countP_eq_length_filter, Bool.beq_eq_decide_eq]

/-- The table of the codes of `L` with a nonzero count, in the order of `L`. -/
def codeTable (count : Code → Nat) (L : List Code) : List (Code × Nat) :=
  L.filterMap fun c => if count c = 0 then none else some (c, count c)

theorem Code.all_sorted : Code.all.Pairwise (·.rank < ·.rank) := by decide

theorem Code.mem_all (c : Code) : c ∈ Code.all := by cases c <;> decide

/-- A code ranked below the first key of a table comes in first. -/
theorem bumpCount_of_lt {c : Code} {t : List (Code × Nat)} (h : ∀ p ∈ t.head?, c.rank < p.1.rank) :
    bumpCount t c = (c, 1) :: t := by
  cases t with
  | nil => rfl
  | cons p t =>
    obtain ⟨c', n⟩ := p
    simp [bumpCount, h (c', n) rfl]

/-- **Bumping a code bumps its count in the table**, for a list of codes
sorted by rank that holds the code. -/
theorem bumpCount_codeTable (count : Code → Nat) {L : List Code} (hL : L.Pairwise (·.rank < ·.rank))
    {c : Code} (hc : c ∈ L) :
    bumpCount (codeTable count L) c = codeTable (fun d => if d = c then count d + 1 else count d) L := by
  induction L with
  | nil => simp at hc
  | cons d L ih =>
    obtain ⟨hd, hL⟩ := List.pairwise_cons.1 hL
    by_cases hcd : c = d
    · subst hcd
      -- the code comes first: the rest of the table keeps its counts, all of them ranked above it
      have hrest : codeTable (fun d => if d = c then count d + 1 else count d) L = codeTable count L :=
        List.filterMap_congr fun x hx => by
          simp [show x ≠ c from fun h => Nat.lt_irrefl _ (hd c (h ▸ hx))]
      have hhead : ∀ p ∈ (codeTable count L).head?, c.rank < p.1.rank := by
        intro p hp
        obtain ⟨x, hx, hpx⟩ := List.mem_filterMap.1 (List.mem_of_mem_head? hp)
        by_cases h0 : count x = 0
        · simp [h0] at hpx
        · simp only [h0, if_false, Option.some.injEq] at hpx
          exact hpx ▸ hd x hx
      by_cases h0 : count c = 0
      · simp only [codeTable, List.filterMap_cons, h0, if_true] at hrest hhead ⊢
        rw [bumpCount_of_lt hhead]
        simp [hrest]
      · simp only [codeTable, List.filterMap_cons, h0, if_false] at hrest ⊢
        simp [bumpCount, hrest]
    · -- the code lies further on, ranked above the first one
      have hcL : c ∈ L := (List.mem_cons.1 hc).resolve_left hcd
      have hlt : d.rank < c.rank := hd c hcL
      have hdc : (d = c) = False := propext ⟨fun h => hcd h.symm, False.elim⟩
      by_cases h0 : count d = 0
      · simp only [codeTable, List.filterMap_cons, h0, hdc, if_true, if_false] at ih ⊢
        exact ih hL hcL
      · simp only [codeTable, List.filterMap_cons, h0, hdc, if_false] at ih ⊢
        rw [bumpCount, if_neg (by omega), if_neg hcd, ih hL hcL]

/-- **The table bumped violation by violation holds each code's count.** -/
theorem foldl_bumpCount (vs : List Violation) :
    vs.foldl (fun counts v => bumpCount counts v.code) [] =
      codeTable (fun c => vs.countP (·.code = c)) Code.all := by
  induction vs using List.reverseRecOn with
  | nil => decide
  | append_singleton vs v ih =>
    rw [List.foldl_append, ih, List.foldl_cons, List.foldl_nil,
      bumpCount_codeTable _ Code.all_sorted (Code.mem_all v.code)]
    congr 1
    funext d
    by_cases h : d = v.code <;> simp [h, List.countP_append, eq_comm]

theorem countByCode_eq :
    r.countByCode = Code.all.filterMap fun c => if r.countOfCode c = 0 then none else some (c, r.countOfCode c) := by
  simp only [countByCode, foldl_bumpCount, codeTable, countOfCode_eq_countP]

/-- The codes of a count list that skips zero counts. -/
theorem map_fst_filterMap_nonzero (L : List Code) (f : Code → Nat) :
    (L.filterMap fun c => if f c = 0 then none else some (c, f c)).map Prod.fst = L.filter (0 < f ·) := by
  induction L with
  | nil => rfl
  | cons c cs ih => by_cases h : f c = 0 <;> simp [h, ih, Nat.pos_iff_ne_zero]

/-- Skipping zero counts changes no sum. -/
theorem sum_snd_filterMap_nonzero (L : List Code) (f : Code → Nat) :
    ((L.filterMap fun c => if f c = 0 then none else some (c, f c)).map Prod.snd).sum = (L.map f).sum := by
  induction L with
  | nil => rfl
  | cons c cs ih => by_cases h : f c = 0 <;> simp [h, ih]

theorem mem_countByCode_iff (c : Code) (n : Nat) :
    (c, n) ∈ r.countByCode ↔ 0 < n ∧ n = r.countOfCode c := by
  have hall : c ∈ Code.all := by cases c <;> decide
  rw [countByCode_eq, List.mem_filterMap]
  constructor
  · rintro ⟨c', -, h⟩
    by_cases hz : r.countOfCode c' = 0
    · simp [hz] at h
    · simp only [hz, if_false, Option.some.injEq, Prod.mk.injEq] at h
      obtain ⟨rfl, rfl⟩ := h
      exact ⟨Nat.pos_of_ne_zero hz, rfl⟩
  · rintro ⟨hn, rfl⟩
    exact ⟨c, hall, by simp [Nat.pos_iff_ne_zero.1 hn]⟩

/-- No code is counted twice. -/
theorem nodup_keys_countByCode : (r.countByCode.map Prod.fst).Nodup := by
  rw [countByCode_eq, map_fst_filterMap_nonzero]
  exact List.Nodup.filter _ (by decide)

/-- Each violation is counted under exactly one code. -/
theorem sum_countOfCode : (Code.all.map r.countOfCode).sum = r.violations.length := by
  simp only [Code.all, List.map_cons, List.map_nil, List.sum_cons, List.sum_nil, countOfCode_eq_countP]
  induction r.violations with
  | nil => rfl
  | cons v vs ih =>
    simp only [List.countP_cons, List.length_cons]
    cases v.code <;> simp <;> omega

/-- **The counts by code add up to all violations.** -/
theorem sum_countByCode : (r.countByCode.map Prod.snd).sum = r.violations.length := by
  rw [countByCode_eq, sum_snd_filterMap_nonzero, sum_countOfCode]

/-! ## Thresholds -/

/-- **Some violation reaches the threshold.** -/
theorem hasViolationsAt_iff (s : Severity) :
    r.hasViolationsAt s = true ↔ ∃ v ∈ r.violations, s ≤ v.severity := by
  simp [hasViolationsAt]

/-- A stricter threshold is reached less often. -/
theorem hasViolationsAt_antitone : Antitone r.hasViolationsAt := by
  intro s s' hss'
  rw [Bool.le_iff_imp]
  intro h
  obtain ⟨v, hv, hle⟩ := (r.hasViolationsAt_iff s').1 h
  exact (r.hasViolationsAt_iff s).2 ⟨v, hv, hss'.trans hle⟩

theorem hasErrors_iff : r.hasErrors = true ↔ 0 < r.countBySeverity.1 := by
  rw [hasErrors, hasViolationsAt_iff, countBySeverity_eq, List.countP_pos_iff]
  simp [Severity.error_le_iff]

/-! ## The test report -/

/-- **The test report, part by part**: the number of violations at or above the
threshold, their blocks in order, and the totals by severity. -/
theorem testReport_eq (s : Severity) :
    r.testReport s = "\n=== oas-lint: " ++ toString (r.violations.countP (s ≤ ·.severity)) ++
      " violation(s) ===\n\n" ++
      String.join ((r.violations.filter (s ≤ ·.severity)).map (·.block ++ "\n")) ++
      "Total: " ++ toString r.countBySeverity.1 ++ " error(s), " ++ toString r.countBySeverity.2.1 ++
      " warning(s), " ++ toString r.countBySeverity.2.2 ++ " info(s) in " ++
      toString r.operationsChecked ++ " operation(s), " ++ toString r.schemasChecked ++ " schema(s)\n" := by
  unfold testReport
  generalize r.countBySeverity = counts
  obtain ⟨e, w, i⟩ := counts
  simp only [Severity.atLeast_eq_decide, List.countP_eq_length_filter, String.append_assoc]
  rfl

end LintResult

/-- **What a lint result counts.**  By severity, the errors, warnings and infos,
adding up to all violations; by code, each code that occurs with its number of
violations, adding up to all violations; the threshold test, which holds when
some violation reaches the threshold and so less often for a stricter one, and
for errors when there is one; and the test report: the number at or above the
threshold, their blocks in order, then the totals. -/
theorem lintResult_counts (r : LintResult) (s : Severity) :
    r.countBySeverity = (r.violations.countP (·.severity = .error),
      r.violations.countP (·.severity = .warning), r.violations.countP (·.severity = .info)) ∧
    r.countBySeverity.1 + r.countBySeverity.2.1 + r.countBySeverity.2.2 = r.violations.length ∧
    (∀ c n, (c, n) ∈ r.countByCode ↔ 0 < n ∧ n = r.violations.countP (·.code = c)) ∧
    (r.countByCode.map Prod.fst).Nodup ∧
    (r.countByCode.map Prod.snd).sum = r.violations.length ∧
    (r.hasViolationsAt s = true ↔ ∃ v ∈ r.violations, s ≤ v.severity) ∧
    Antitone r.hasViolationsAt ∧
    (r.hasErrors = true ↔ 0 < r.countBySeverity.1) ∧
    r.testReport s = "\n=== oas-lint: " ++ toString (r.violations.countP (s ≤ ·.severity)) ++
      " violation(s) ===\n\n" ++
      String.join ((r.violations.filter (s ≤ ·.severity)).map (·.block ++ "\n")) ++
      "Total: " ++ toString r.countBySeverity.1 ++ " error(s), " ++ toString r.countBySeverity.2.1 ++
      " warning(s), " ++ toString r.countBySeverity.2.2 ++ " info(s) in " ++
      toString r.operationsChecked ++ " operation(s), " ++ toString r.schemasChecked ++ " schema(s)\n" :=
  ⟨r.countBySeverity_eq, r.countBySeverity_sum,
    fun c n => by rw [r.mem_countByCode_iff, r.countOfCode_eq_countP], r.nodup_keys_countByCode,
    r.sum_countByCode, r.hasViolationsAt_iff s, r.hasViolationsAt_antitone, r.hasErrors_iff,
    r.testReport_eq s⟩

end OpenApiLint
