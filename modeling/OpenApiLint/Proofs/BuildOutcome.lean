import Mathlib
import OpenApiLint.Lint.Config.Read
import OpenApiLint.Proofs.Validate
import OpenApiLint.Proofs.Restrict
import OpenApiLint.Proofs.Utf8
/-!
# Which error building reports

Building a validator makes two checks in turn.  The first refuses a rule name
registered twice and names the first rule whose name an earlier rule already
has.  The second refuses a configured rule name that no rule has, and names
the first such key of the rule table.  The rule table is kept sorted by key,
so the first key found is the least one, in the order of code points and
equally in the order of UTF-8 bytes (`Text.bytes_le_iff`).

Sortedness is a property of the table, not of its type: every table that
`insertSorted` builds keeps its keys strictly ascending, and so does every
configuration read from text.  The outcome theorem takes it as a hypothesis,
which `Config.parse_build_reports_least_unknown` discharges for a configuration
read from text.

## Main statements

* `Config.parse_rules_sorted` — a configuration read from text has its keys ascending.
* `Validator.firstRepeated_eq_some_iff` — the name the duplicate scan reports.
* `find?_eq_some_iff_least` — a search in an ascending list finds the least match.
* `build_reports_first_error` — what building returns, for every rule list and configuration.
* `Config.parse_build_reports_least_unknown` — the unknown key reported for a
  configuration read from text.
-/

namespace OpenApiLint

/-! ## Ascending rule tables -/

/-- Inserting keeps the keys strictly ascending. -/
theorem pairwise_insertSorted {α : Type} {l : List (String × α)}
    (hl : l.Pairwise fun a b => a.1 < b.1) (k : String) (v : α) :
    (insertSorted l k v).Pairwise fun a b => a.1 < b.1 := by
  induction l with
  | nil => simp [insertSorted]
  | cons e rest ih =>
    obtain ⟨k', v'⟩ := e
    rw [List.pairwise_cons] at hl
    rw [insertSorted]
    split_ifs with hlt heq
    · -- the new key goes in front of everything
      refine List.pairwise_cons.2 ⟨?_, List.pairwise_cons.2 hl⟩
      rintro e (_ | ⟨_, he⟩)
      · exact hlt
      · exact hlt.trans (hl.1 e he)
    · -- the new entry takes the old one's place
      subst heq
      exact List.pairwise_cons.2 ⟨hl.1, hl.2⟩
    · have hk : k' < k := lt_of_le_of_ne (not_lt.1 hlt) (Ne.symm heq)
      refine List.pairwise_cons.2 ⟨fun e he => ?_, ih hl.2⟩
      rcases mem_insertSorted he with h | h
      · exact h ▸ hk
      · exact hl.1 e h

/-- A bind in `Except` that succeeds ran its first step to a value. -/
theorem exists_ok_of_bind_eq_ok {ε α β : Type} {x : Except ε α} {f : α → Except ε β} {b : β}
    (h : x >>= f = .ok b) : ∃ a, x = .ok a ∧ f a = .ok b := by
  cases x with
  | error => cases h
  | ok a => exact ⟨a, rfl, h⟩

/-- A property kept by every step of a fold in `Except` holds of its result. -/
theorem foldlM_except_invariant {ε α β : Type} (P : β → Prop) {f : β → α → Except ε β}
    (hstep : ∀ b a b', P b → f b a = .ok b' → P b') :
    ∀ (l : List α) {b b' : β}, P b → l.foldlM f b = .ok b' → P b'
  | [], b, b', hb, h => by
    cases h
    exact hb
  | a :: l, b, b', hb, h => by
    rw [List.foldlM_cons] at h
    obtain ⟨b₁, hf, h⟩ := exists_ok_of_bind_eq_ok h
    exact foldlM_except_invariant P hstep l (hstep b a b₁ hb hf) h

theorem placed_eq_ok {α : Type} {sp : Option Toml.Span} {x : Except Mismatch α} {a : α} :
    placed sp x = .ok a ↔ x = .ok a := by
  cases x <;> simp [placed]

/-- A step that inserts one entry read from `x` keeps the keys ascending. -/
theorem insertSorted_bind_sorted {ε α : Type} {acc acc' : List (String × α)} {k : String}
    {x : Except ε α} (hacc : acc.Pairwise fun a b => a.1 < b.1)
    (h : (do let v ← x; pure (insertSorted acc k v)) = Except.ok acc') :
    acc'.Pairwise fun a b => a.1 < b.1 := by
  obtain ⟨v, -, hv⟩ := exists_ok_of_bind_eq_ok h
  cases hv
  exact pairwise_insertSorted hacc k v

/-- The rules table read from TOML has its keys ascending. -/
theorem readRules_sorted {n : Toml.Node} {rs : List (String × RuleConfig)}
    (h : readRules n = .ok rs) : rs.Pairwise fun a b => a.1 < b.1 := by
  rw [readRules.eq_def, placed_eq_ok] at h
  -- a table, inline or not, is read entry by entry into a sorted table; anything else is refused
  split at h
  any_goals
    refine foldlM_except_invariant _ ?_ _ List.Pairwise.nil h
    rintro acc ⟨k, v⟩ acc' hacc hstep
    exact insertSorted_bind_sorted hacc hstep
  all_goals simp [mismatch] at h

/-- **A configuration read from text has its rule keys strictly ascending**, as
a sorted map's keys are. -/
theorem Config.parse_rules_sorted {text : String} {c : Config} (h : Config.parse text = .ok c) :
    c.rules.Pairwise fun a b => a.1 < b.1 := by
  unfold Config.parse at h
  split at h
  · cases h
  · split at h
    · next c' hread =>
      cases h
      refine foldlM_except_invariant (fun c : Config => c.rules.Pairwise fun a b => a.1 < b.1)
        ?_ _ List.Pairwise.nil hread
      -- only the `rules` key changes the table, and it puts a table read from TOML there
      rintro c₀ ⟨k, v⟩ c₁ hc₀ hstep
      dsimp only at hstep
      split_ifs at hstep
      · obtain ⟨s, -, hs⟩ := exists_ok_of_bind_eq_ok hstep
        cases hs
        exact hc₀
      · obtain ⟨rs, hrs, hs⟩ := exists_ok_of_bind_eq_ok hstep
        cases hs
        exact readRules_sorted (placed_eq_ok.1 hrs)
      · cases hstep
        exact hc₀
    · cases h

/-! ## The repeated name -/

namespace Validator

/-- **The name the duplicate scan reports**, having already seen `seen`: the
names up to it are distinct and unseen, and it repeats one of them or a seen
one. -/
theorem firstRepeated_eq_some_iff {seen : List String} {R : List Rule} {n : String} :
    firstRepeated seen R = some n ↔
      ∃ pre post, R.map Rule.name = pre ++ n :: post ∧ pre.Nodup ∧ (∀ x ∈ pre, x ∉ seen) ∧
        (n ∈ pre ∨ n ∈ seen) := by
  induction R generalizing seen with
  | nil => simp [firstRepeated]
  | cons a R ih =>
    by_cases ha : a.name ∈ seen
    · -- the head is reported; a longer prefix would have to start with an unseen head
      simp only [firstRepeated, List.contains_iff_mem, ha, if_true, Option.some.injEq, List.map_cons]
      constructor
      · rintro rfl
        exact ⟨[], _, rfl, List.nodup_nil, by simp, .inr ha⟩
      · rintro ⟨_ | ⟨p, pre⟩, post, hnames, -, hfresh, hn⟩
        · simp only [List.nil_append, List.cons.injEq] at hnames
          exact hnames.1
        · simp only [List.cons_append, List.cons.injEq] at hnames
          exact absurd (hnames.1 ▸ ha) (hfresh p (List.mem_cons_self ..))
    · -- the scan goes on with the head's name seen
      simp only [firstRepeated, List.contains_iff_mem, ha, if_false, ih, List.map_cons]
      constructor
      · rintro ⟨pre, post, hnames, hnodup, hfresh, hn⟩
        refine ⟨a.name :: pre, post, by rw [hnames, List.cons_append], ?_, ?_, ?_⟩
        · exact List.nodup_cons.2 ⟨fun h => hfresh _ h (List.mem_cons_self ..), hnodup⟩
        · rintro x (_ | ⟨_, hx⟩)
          · exact ha
          · exact fun h => hfresh x hx (List.mem_cons_of_mem _ h)
        · rcases hn with hn | hn
          · exact .inl (List.mem_cons_of_mem _ hn)
          · rcases List.mem_cons.1 hn with rfl | hn
            · exact .inl (List.mem_cons_self ..)
            · exact .inr hn
      · rintro ⟨_ | ⟨p, pre⟩, post, hnames, hnodup, hfresh, hn⟩
        · simp only [List.nil_append, List.cons.injEq] at hnames
          simp only [List.not_mem_nil, false_or] at hn
          exact absurd (hnames.1 ▸ hn) ha
        · simp only [List.cons_append, List.cons.injEq] at hnames
          obtain ⟨rfl, hnames⟩ := hnames
          obtain ⟨hp, hnodup⟩ := List.nodup_cons.1 hnodup
          refine ⟨pre, post, hnames, hnodup, fun x hx => ?_, ?_⟩
          · rintro (_ | ⟨_, hx'⟩)
            · exact hp hx
            · exact hfresh x (List.mem_cons_of_mem _ hx) hx'
          · rcases hn with hn | hn
            · rcases List.mem_cons.1 hn with rfl | hn
              · exact .inr (List.mem_cons_self ..)
              · exact .inl hn
            · exact .inr (List.mem_cons_of_mem _ hn)

/-- From an empty start, the scan reports the first name that repeats an
earlier one. -/
theorem firstRepeated_nil_eq_some_iff {R : List Rule} {n : String} :
    firstRepeated [] R = some n ↔
      ∃ pre post, R.map Rule.name = pre ++ n :: post ∧ pre.Nodup ∧ n ∈ pre := by
  simp [firstRepeated_eq_some_iff]

end Validator

/-! ## The least unknown key -/

/-- The match a search in an ascending list finds is below every other match. -/
theorem least_of_find?_eq_some {l : List String} (hl : l.Pairwise (· < ·)) {p : String → Bool}
    {k : String} (h : l.find? p = some k) : k ∈ l ∧ p k ∧ ∀ k' ∈ l, p k' → k ≤ k' := by
  obtain ⟨hk, as, bs, rfl, hbefore⟩ := List.find?_eq_some_iff_append.1 h
  refine ⟨by simp, hk, fun k' hk' hpk' => ?_⟩
  rw [List.pairwise_append, List.pairwise_cons] at hl
  -- no match comes before `k`, and every key after it is larger
  rcases List.mem_append.1 hk' with h' | h'
  · simpa [hpk'] using hbefore k' h'
  · rcases List.mem_cons.1 h' with rfl | h'
    · exact le_rfl
    · exact (hl.2.1.1 k' h').le

/-- **A search in an ascending list finds the least match.** -/
theorem find?_eq_some_iff_least {l : List String} (hl : l.Pairwise (· < ·)) {p : String → Bool}
    {k : String} :
    l.find? p = some k ↔ k ∈ l ∧ p k ∧ ∀ k' ∈ l, p k' → k ≤ k' := by
  refine ⟨least_of_find?_eq_some hl, fun ⟨hk, hpk, hleast⟩ => ?_⟩
  -- the search finds some match, and two least matches are equal
  obtain ⟨k₀, hk₀⟩ := Option.isSome_iff_exists.1 (List.find?_isSome.2 ⟨k, hk, hpk⟩)
  obtain ⟨hmem₀, hp₀, hleast₀⟩ := least_of_find?_eq_some hl hk₀
  rw [hk₀, le_antisymm (hleast₀ k hk hpk) (hleast k₀ hmem₀ hp₀)]

/-! ## What building returns -/

namespace Validator

/-- The unknown-key error comes after a clean scan, from the search of the
configured keys for one that no rule has. -/
theorem build_eq_error_unknownRule_iff {R : List Rule} {c : Config} {k : String} :
    build R c = .error (.unknownRule k) ↔
      firstRepeated [] R = none ∧
        (c.rules.map Prod.fst).find? (fun n => decide (n ∉ R.map Rule.name)) = some k := by
  unfold build
  cases firstRepeated [] R with
  | some m => simp
  | none =>
    dsimp only
    -- the search over entries is the search over their keys
    have hpred : (fun e : String × RuleConfig => decide (e.1 ∉ R.map Rule.name)) =
        fun e => !R.any (·.name == e.1) := by
      funext e
      rw [Bool.eq_iff_iff]
      simp
    rw [List.find?_map, Function.comp_def, hpred]
    split
    next n rc hkey =>
      have hkey' : c.rules.find? (fun e => !R.any (·.name == e.1)) = some (n, rc) := hkey
      simp [hkey']
    next hkey =>
      have hkey' : c.rules.find? (fun e => !R.any (·.name == e.1)) = none := hkey
      simp [hkey']

/-- Building reports a repeated name exactly when the names are not distinct. -/
theorem exists_build_eq_duplicateRule_iff {R : List Rule} {c : Config} :
    (∃ n, build R c = .error (.duplicateRule n)) ↔ ¬ (R.map Rule.name).Nodup := by
  simp only [build_eq_error_duplicateRule_iff, ← Option.ne_none_iff_exists', ne_eq,
    firstRepeated_nil_eq_none_iff]

/-- Building reports an unknown key exactly when the names are distinct and
some configured key names no rule. -/
theorem exists_build_eq_unknownRule_iff {R : List Rule} {c : Config} :
    (∃ k, build R c = .error (.unknownRule k)) ↔
      (R.map Rule.name).Nodup ∧ ∃ k ∈ c.rules.map Prod.fst, k ∉ R.map Rule.name := by
  simp only [build_eq_error_unknownRule_iff, exists_and_left, ← Option.isSome_iff_exists,
    List.find?_isSome, decide_eq_true_eq, firstRepeated_nil_eq_none_iff]

/-- **With the keys ascending, the unknown key reported is the least one.** -/
theorem build_eq_error_unknownRule_iff_least {R : List Rule} {c : Config} {k : String}
    (hsorted : c.rules.Pairwise fun a b => a.1 < b.1) :
    build R c = .error (.unknownRule k) ↔
      (R.map Rule.name).Nodup ∧ k ∈ c.rules.map Prod.fst ∧ k ∉ R.map Rule.name ∧
        ∀ k' ∈ c.rules.map Prod.fst, k' ∉ R.map Rule.name → k ≤ k' := by
  rw [build_eq_error_unknownRule_iff, firstRepeated_nil_eq_none_iff,
    find?_eq_some_iff_least (List.pairwise_map.2 hsorted)]
  simp only [decide_eq_true_eq]

/-- With the keys ascending, the unknown key reported is the least one in the
order of UTF-8 bytes. -/
theorem build_eq_error_unknownRule_iff_least_bytes {R : List Rule} {c : Config} {k : String}
    (hsorted : c.rules.Pairwise fun a b => a.1 < b.1) :
    build R c = .error (.unknownRule k) ↔
      (R.map Rule.name).Nodup ∧ k ∈ c.rules.map Prod.fst ∧ k ∉ R.map Rule.name ∧
        ∀ k' ∈ c.rules.map Prod.fst, k' ∉ R.map Rule.name →
          k.toByteArray.data.toList ≤ k'.toByteArray.data.toList := by
  -- the byte order of keys is their order as texts
  simp only [build_eq_error_unknownRule_iff_least hsorted, Text.bytes_le_iff]

/-- Building succeeds exactly when the names are distinct and each configured
key names a rule. -/
theorem build_eq_ok_iff_keys {R : List Rule} {c : Config} {v : Validator} :
    build R c = .ok v ↔
      (R.map Rule.name).Nodup ∧ (∀ k ∈ c.rules.map Prod.fst, k ∈ R.map Rule.name) ∧ v = ⟨R, c⟩ := by
  rw [build_eq_ok_iff, List.forall_mem_map]
  simp only [List.mem_map]

end Validator

/-- **What building returns.**  For every list of rules, repeated names
allowed, and every configuration or none, whose rule table has its keys
ascending: building refuses a repeated name exactly when the names are not
distinct, and names the first one that repeats an earlier one; otherwise it
refuses an unknown key exactly when some configured key names no rule, and
names the least such key in byte order; otherwise it returns the rules, in
their order, with the configuration (else the default one). -/
theorem build_reports_first_error (rules : List Rule) (config : Option Config)
    (hsorted : (config.getD {}).rules.Pairwise fun a b => a.1 < b.1) :
    ((∃ n, Validator.build rules (config.getD {}) = .error (.duplicateRule n)) ↔
      ¬ (rules.map Rule.name).Nodup) ∧
    (∀ n, Validator.build rules (config.getD {}) = .error (.duplicateRule n) ↔
      ∃ pre post, rules.map Rule.name = pre ++ n :: post ∧ pre.Nodup ∧ n ∈ pre) ∧
    ((∃ k, Validator.build rules (config.getD {}) = .error (.unknownRule k)) ↔
      (rules.map Rule.name).Nodup ∧
        ∃ k ∈ (config.getD {}).rules.map Prod.fst, k ∉ rules.map Rule.name) ∧
    (∀ k, Validator.build rules (config.getD {}) = .error (.unknownRule k) ↔
      (rules.map Rule.name).Nodup ∧ k ∈ (config.getD {}).rules.map Prod.fst ∧
        k ∉ rules.map Rule.name ∧
        ∀ k' ∈ (config.getD {}).rules.map Prod.fst, k' ∉ rules.map Rule.name →
          k.toByteArray.data.toList ≤ k'.toByteArray.data.toList) ∧
    (∀ v, Validator.build rules (config.getD {}) = .ok v ↔
      (rules.map Rule.name).Nodup ∧
        (∀ k ∈ (config.getD {}).rules.map Prod.fst, k ∈ rules.map Rule.name) ∧
        v = ⟨rules, config.getD {}⟩) := by
  refine ⟨Validator.exists_build_eq_duplicateRule_iff,
    fun n => Validator.build_eq_error_duplicateRule_iff.trans Validator.firstRepeated_nil_eq_some_iff,
    Validator.exists_build_eq_unknownRule_iff,
    fun k => Validator.build_eq_error_unknownRule_iff_least_bytes hsorted,
    fun v => Validator.build_eq_ok_iff_keys⟩

/-- **Building with a configuration read from text reports the least unknown
key** in byte order, with nothing assumed of the table: reading keeps its keys
ascending. -/
theorem Config.parse_build_reports_least_unknown {text : String} {c : Config}
    (h : Config.parse text = .ok c) (rules : List Rule) (k : String) :
    Validator.build rules c = .error (.unknownRule k) ↔
      (rules.map Rule.name).Nodup ∧ k ∈ c.rules.map Prod.fst ∧ k ∉ rules.map Rule.name ∧
        ∀ k' ∈ c.rules.map Prod.fst, k' ∉ rules.map Rule.name →
          k.toByteArray.data.toList ≤ k'.toByteArray.data.toList :=
  Validator.build_eq_error_unknownRule_iff_least_bytes (Config.parse_rules_sorted h)

/-- Two rules of one name and a table of two unknown keys: the repeated name
is reported, not the least unknown key. -/
theorem build_reports_first_error_duplicate :
    ([("a-unknown", ({} : RuleConfig)), ("z-unknown", {})].Pairwise fun a b => a.1 < b.1) ∧
    Validator.build [Rules.operationDescription, Rules.enumUpperSnakeCase, Rules.operationDescription]
        { rules := [("a-unknown", {}), ("z-unknown", {})] } =
      .error (.duplicateRule "operation-description") := by
  have hsorted : [("a-unknown", ({} : RuleConfig)), ("z-unknown", {})].Pairwise
      fun a b => a.1 < b.1 := by decide
  refine ⟨hsorted, ((build_reports_first_error
    [Rules.operationDescription, Rules.enumUpperSnakeCase, Rules.operationDescription]
    (some { rules := [("a-unknown", {}), ("z-unknown", {})] }) hsorted).2.1 _).2
    ⟨["operation-description", "enum-upper-snake-case"], [], rfl, by decide, by simp⟩⟩

end OpenApiLint
