import Mathlib
import OpenApiLint.Proofs.Validate
import OpenApiLint.Cli.Run
import OpenApiLint.Cli.Store
/-!
# How `check` exits

A check run on files held in a store goes through three stages, and the first
that fails decides the exit code: the configuration is loaded and narrowed to
the selected rules, the validator is built, and the files are read one after
the other.  A file that cannot be read ends the run at once, before anything is
printed.  When every file reads, the reports of the files that parse are
printed in argument order, and the exit code is 2 if some file is not a
document, else 1 if some report reaches `fail-on`, else 0.  So a run fails with
1 for every other reason alike: an unreadable file, a configuration that does
not load, an unknown selector, a configuration that names an unknown rule, and
a violation.

Up to the step summary, a check only reads the store, so each stage is stated
as a value of the store it starts from.

## Main statements

* `ReadsOnly` — a computation that leaves the store as it found it.
* `error_lintFiles_eq_none_iff`, `reports_lintFiles`, `failed_lintFiles_eq_zero_iff` —
  what linting the files gives.
* `exitCode_of_setsUp` — the exit code once the validator is built.
* `check_exit_status` — the whole run.
-/

namespace OpenApiLint

/-! ## Reading the store -/

/-- A computation over the store that reads it and writes nothing. -/
def ReadsOnly {α : Type} (x : StateM Store α) : Prop := ∀ s, (x.run s).2 = s

namespace ReadsOnly

variable {α β : Type}

theorem run_eq {x : StateM Store α} (hx : ReadsOnly x) (s : Store) : x.run s = (x.run' s, s) :=
  Prod.ext rfl (hx s)

theorem pure (a : α) : ReadsOnly (Pure.pure a : StateM Store α) := fun _ => rfl

theorem bind {x : StateM Store α} {f : α → StateM Store β} (hx : ReadsOnly x)
    (hf : ∀ a, ReadsOnly (f a)) : ReadsOnly (x >>= f) := by
  intro s
  show ((f (x.run s).1).run (x.run s).2).2 = s
  rw [hx s, hf _ s]

/-- After a computation that only reads, the next one starts from the same store. -/
theorem run'_bind {x : StateM Store α} {f : α → StateM Store β} (hx : ReadsOnly x) (s : Store) :
    (x >>= f).run' s = (f (x.run' s)).run' s := by
  show ((f (x.run s).1).run (x.run s).2).1 = _
  rw [run_eq hx]
  rfl

end ReadsOnly

theorem readsOnly_readText (p : String) : ReadsOnly (Store.host.readText p) := by
  refine ReadsOnly.bind (fun _ => rfl) fun r => ?_
  split
  · exact ReadsOnly.pure _
  · split <;> exact ReadsOnly.pure _

theorem readsOnly_loadConfig (source : ConfigSource) :
    ReadsOnly (loadConfig Store.host source) := by
  unfold loadConfig
  split
  · exact ReadsOnly.pure _
  · refine ReadsOnly.bind ?_ fun r => ?_
    · unfold readConfigFile
      refine (readsOnly_readText _).bind fun r => ?_
      split <;> exact ReadsOnly.pure _
    · split <;> exact ReadsOnly.pure _

theorem readsOnly_checkConfig (source : ConfigSource) (rules : Option String) :
    ReadsOnly (checkConfig Store.host source rules) := by
  unfold checkConfig
  refine (readsOnly_loadConfig source).bind fun r => ?_
  split
  · exact ReadsOnly.pure _
  · split <;> exact ReadsOnly.pure _

theorem readsOnly_lintFiles (v : Validator) (files : List String) :
    ReadsOnly (lintFiles Store.host v files) := by
  induction files with
  | nil => exact ReadsOnly.pure _
  | cons f rest ih =>
    unfold lintFiles
    refine (readsOnly_readText f).bind fun r => ?_
    split
    · exact ReadsOnly.pure _
    · exact ih.bind fun _ => ReadsOnly.pure _

/-! ## Linting the files -/

section

variable (s : Store) (v : Validator)

/-- What a check does with one file: the system's refusal when it cannot be read
as text, else the file's lint result. -/
def fileOutcome (file : String) : Except String (Except ParseError FileReport) :=
  ((Store.host.readText file).run' s).map (lintFile v file)

/-- Every file of a check can be read. -/
def AllRead (files : List String) : Prop := ∀ f ∈ files, ∃ o, fileOutcome s v f = .ok o

/-- The reports of the files that read and parse, in argument order. -/
def reportsOf (files : List String) : List FileReport :=
  files.filterMap fun f =>
    match fileOutcome s v f with
    | .ok (.ok r) => some r
    | _ => none

theorem fileOutcome_of_read_ok {f content : String}
    (h : (Store.host.readText f).run' s = .ok content) :
    fileOutcome s v f = .ok (lintFile v f content) := by
  rw [fileOutcome, h]
  rfl

theorem fileOutcome_of_read_error {f reason : String}
    (h : (Store.host.readText f).run' s = .error reason) :
    fileOutcome s v f = .error reason := by
  rw [fileOutcome, h]
  rfl

theorem lintFiles_cons_of_read_error {f : String} {rest : List String} {reason : String}
    (h : (Store.host.readText f).run' s = .error reason) :
    (lintFiles Store.host v (f :: rest)).run' s =
      { error := some { message := "Failed to read " ++ f, causes := [reason] } } := by
  unfold lintFiles
  rw [ReadsOnly.run'_bind (readsOnly_readText f), h]
  rfl

/-- A file that reads adds its report or its failure in front of the rest. -/
theorem lintFiles_cons_of_read_ok {f : String} {rest : List String} {content : String}
    (h : (Store.host.readText f).run' s = .ok content) :
    ((lintFiles Store.host v (f :: rest)).run' s).error =
        ((lintFiles Store.host v rest).run' s).error ∧
      ((lintFiles Store.host v (f :: rest)).run' s).reports =
        (lintFile v f content).toOption.toList ++ ((lintFiles Store.host v rest).run' s).reports ∧
      ((lintFiles Store.host v (f :: rest)).run' s).failed =
        (if (lintFile v f content).toBool then 0 else 1) +
          ((lintFiles Store.host v rest).run' s).failed := by
  rw [lintFiles, ReadsOnly.run'_bind (readsOnly_readText f), h]
  dsimp only
  rw [ReadsOnly.run'_bind (readsOnly_lintFiles v rest)]
  cases lintFile v f content <;> exact ⟨rfl, rfl, rfl⟩

/-- Linting runs to the end exactly when every file can be read. -/
theorem error_lintFiles_eq_none_iff (files : List String) :
    ((lintFiles Store.host v files).run' s).error = none ↔ AllRead s v files := by
  induction files with
  | nil => simp only [AllRead, List.not_mem_nil, false_implies, implies_true, iff_true]; rfl
  | cons f rest ih =>
    unfold AllRead at ih ⊢
    cases hr : (Store.host.readText f).run' s with
    | error reason =>
      rw [lintFiles_cons_of_read_error s v hr]
      simp [fileOutcome_of_read_error s v hr]
    | ok content =>
      rw [(lintFiles_cons_of_read_ok s v hr).1, ih]
      simp [fileOutcome_of_read_ok s v hr]

/-- When every file can be read, the reports are those of the files that parse. -/
theorem reports_lintFiles {files : List String} (h : AllRead s v files) :
    ((lintFiles Store.host v files).run' s).reports = reportsOf s v files := by
  induction files with
  | nil => rfl
  | cons f rest ih =>
    obtain ⟨o, ho⟩ := h f List.mem_cons_self
    cases hr : (Store.host.readText f).run' s with
    | error reason => simp [fileOutcome_of_read_error s v hr] at ho
    | ok content =>
      rw [(lintFiles_cons_of_read_ok s v hr).2.1, ih fun f' hf' => h f' (List.mem_cons_of_mem _ hf')]
      cases hl : lintFile v f content <;>
        simp [reportsOf, fileOutcome_of_read_ok s v hr, hl, Except.toOption]

/-- When every file can be read, none failed exactly when every file parses. -/
theorem failed_lintFiles_eq_zero_iff {files : List String} (h : AllRead s v files) :
    ((lintFiles Store.host v files).run' s).failed = 0 ↔
      ∀ f ∈ files, ∃ r, fileOutcome s v f = .ok (.ok r) := by
  induction files with
  | nil => simp only [List.not_mem_nil, false_implies, implies_true, iff_true]; rfl
  | cons f rest ih =>
    obtain ⟨o, ho⟩ := h f List.mem_cons_self
    cases hr : (Store.host.readText f).run' s with
    | error reason => simp [fileOutcome_of_read_error s v hr] at ho
    | ok content =>
      rw [(lintFiles_cons_of_read_ok s v hr).2.2, List.forall_mem_cons,
        ← ih fun f' hf' => h f' (List.mem_cons_of_mem _ hf')]
      cases hl : lintFile v f content <;>
        simp [fileOutcome_of_read_ok s v hr, hl, Except.toBool]

end

/-! ## The end of a check -/

/-- A run may append to the file at `path`: the path names a file, or a
missing one in a directory that exists. -/
def Store.Writable (s : Store) (path : String) : Prop :=
  ∀ update : Option ByteArray → ByteArray, ∃ s', s.put path update = .ok s'

/-- A path can be written to exactly when it leads to a file, or to nothing in
a directory that exists. -/
theorem Store.writable_iff {s : Store} {path : String} :
    s.Writable path ↔ (∃ p, s.resolve path = .file p) ∨ ∃ p, s.resolve path = .missing p := by
  unfold Store.Writable Store.put
  cases s.resolve path <;> simp

theorem appendFile_run_of_writable {s : Store} {path : String} (h : s.Writable path)
    (text : String) : ∃ s', (Store.host.appendFile path text).run s = (.ok (), s') := by
  obtain ⟨s', hs'⟩ := h fun old => (old.getD ByteArray.empty) ++ text.toUTF8
  refine ⟨s', ?_⟩
  simp only [String.toUTF8_eq_toByteArray] at hs'
  simp [Store.host, hs']
  rfl

section

variable {s : Store} {env : Environment} {files : List String} {format : OutputFormat}
  {failOn : Severity} {v : Validator}

/-- A file that cannot be read ends the check with code 1 and prints nothing. -/
theorem checkFiles_of_not_allRead (h : ¬ AllRead s v files) :
    ((checkFiles Store.host env files format failOn v).run' s).exitCode = 1 ∧
      ((checkFiles Store.host env files format failOn v).run' s).stdout = "" := by
  unfold checkFiles
  rw [ReadsOnly.run'_bind (readsOnly_lintFiles v files)]
  rw [← error_lintFiles_eq_none_iff] at h
  obtain ⟨e, he⟩ := Option.ne_none_iff_exists'.1 h
  simp only [he]
  exact ⟨rfl, rfl⟩

/-- When every file can be read, the check prints the reports of the files that
parse, in argument order, and exits with 2 if some file did not parse, else 1
if some report reaches `failOn`, else 0. -/
theorem checkFiles_of_allRead
    (hw : format = .github → ∀ p, env.get? "GITHUB_STEP_SUMMARY" = some p → s.Writable p)
    (h : AllRead s v files) :
    ((checkFiles Store.host env files format failOn v).run' s).exitCode =
        (if ((lintFiles Store.host v files).run' s).failed > 0 then 2
        else if (reportsOf s v files).any (·.result.hasViolationsAt failOn) then 1 else 0) ∧
      ((checkFiles Store.host env files format failOn v).run' s).stdout =
        renderReports format (reportsOf s v files) := by
  have herr := (error_lintFiles_eq_none_iff s v files).2 h
  have hreports := reports_lintFiles s v h
  unfold checkFiles
  rw [ReadsOnly.run'_bind (readsOnly_lintFiles v files)]
  generalize (lintFiles Store.host v files).run' s = run at herr hreports ⊢
  simp only [herr, hreports]
  by_cases hg : format = .github
  · subst hg
    cases hp : env.get? "GITHUB_STEP_SUMMARY" with
    | none => exact ⟨rfl, rfl⟩
    | some p =>
      -- the summary is appended, and the outcome no longer reads the store
      obtain ⟨s', hs'⟩ := appendFile_run_of_writable (hw rfl p hp)
        (stepSummary (reportsOf s v files))
      simp only [beq_self_eq_true, if_true, StateT.run'_eq, StateT.run_bind, hs']
      exact ⟨rfl, rfl⟩
  · have hne : (format == .github) = false := by simpa using hg
    simp only [hne, Bool.false_eq_true, if_false]
    exact ⟨rfl, rfl⟩

end

/-! ## The setup of a check -/

/-- The setup of a check succeeds with validator `v`: the configuration loads and
is narrowed to the rules `--rules` selects, and the validator builds with all
the built-in rules. -/
def SetsUp (s : Store) (rules : Option String) (source : ConfigSource) (v : Validator) : Prop :=
  ∃ c, (checkConfig Store.host source rules).run' s = .ok c ∧ Validator.build Rules.builtIn c = .ok v

theorem SetsUp.unique {s : Store} {rules : Option String} {source : ConfigSource}
    {v v' : Validator} (h : SetsUp s rules source v) (h' : SetsUp s rules source v') : v = v' := by
  obtain ⟨c, hc, hv⟩ := h
  obtain ⟨c', hc', hv'⟩ := h'
  rw [hc] at hc'
  cases hc'
  rw [hv] at hv'
  cases hv'
  rfl

theorem exists_setsUp_and_iff {s : Store} {rules : Option String} {source : ConfigSource}
    {v : Validator} (hv : SetsUp s rules source v) (P : Validator → Prop) :
    (∃ v', SetsUp s rules source v' ∧ P v') ↔ P v := by
  constructor
  · rintro ⟨v', hv', hp⟩
    rwa [hv.unique hv']
  · exact fun hp => ⟨v, hv, hp⟩

section

variable {s : Store} {rules : Option String} {source : ConfigSource}

/-- A setup that fails ends the check with code 1 and prints nothing. -/
theorem runCheck_of_not_setsUp (env : Environment) (files : List String) (format : OutputFormat)
    (h : ¬ ∃ v, SetsUp s rules source v) :
    ((runCheck Store.host env files format rules source).run' s).exitCode = 1 ∧
      ((runCheck Store.host env files format rules source).run' s).stdout = "" := by
  unfold runCheck
  rw [ReadsOnly.run'_bind (readsOnly_checkConfig source rules)]
  cases hc : (checkConfig Store.host source rules).run' s with
  | error e => exact ⟨rfl, rfl⟩
  | ok c =>
    dsimp only
    cases hv : Validator.build Rules.builtIn c with
    | error e => exact ⟨rfl, rfl⟩
    | ok v => exact absurd ⟨v, c, hc, hv⟩ h

/-- Once set up, a check lints the files with its validator, failing at the
configured `fail-on`. -/
theorem runCheck_of_setsUp {env : Environment} {files : List String} {format : OutputFormat}
    {v : Validator} (h : SetsUp s rules source v) :
    (runCheck Store.host env files format rules source).run' s =
      (checkFiles Store.host env files format v.config.failOnSeverity v).run' s := by
  obtain ⟨c, hc, hv⟩ := h
  obtain ⟨-, -, rfl⟩ := Validator.build_eq_ok_iff.1 hv
  unfold runCheck
  rw [ReadsOnly.run'_bind (readsOnly_checkConfig source rules), hc]
  simp only [hv]

end

/-! ## The exit status -/

section

variable (s : Store) (v : Validator) (files : List String)

/-- Every file of a check reads and parses, and no report reaches `fail-on`. -/
def AllPass : Prop :=
  ∀ f ∈ files, ∃ r, fileOutcome s v f = .ok (.ok r) ∧
    r.result.hasViolationsAt v.config.failOnSeverity = false

/-- Every file of a check reads, and some file is not a document. -/
def SomeUnparsed : Prop :=
  AllRead s v files ∧ ∃ f ∈ files, ∃ e, fileOutcome s v f = .ok (.error e)

variable {s v files}

theorem mem_reportsOf {r : FileReport} :
    r ∈ reportsOf s v files ↔ ∃ f ∈ files, fileOutcome s v f = .ok (.ok r) := by
  simp only [reportsOf, List.mem_filterMap]
  refine exists_congr fun f => and_congr_right fun _ => ?_
  split <;> simp_all

theorem someUnparsed_iff (hread : AllRead s v files) :
    SomeUnparsed s v files ↔ ((lintFiles Store.host v files).run' s).failed > 0 := by
  rw [gt_iff_lt, Nat.pos_iff_ne_zero, Ne, failed_lintFiles_eq_zero_iff s v hread]
  constructor
  · rintro ⟨-, f, hf, e, he⟩ hall
    obtain ⟨r, hr⟩ := hall f hf
    rw [he] at hr
    cases hr
  · intro hnot
    refine ⟨hread, ?_⟩
    by_contra hnone
    refine hnot fun f hf => ?_
    obtain ⟨o, ho⟩ := hread f hf
    cases o with
    | ok r => exact ⟨r, ho⟩
    | error e => exact absurd ⟨f, hf, e, ho⟩ hnone

theorem allPass_iff (hread : AllRead s v files) :
    AllPass s v files ↔ ((lintFiles Store.host v files).run' s).failed = 0 ∧
      (reportsOf s v files).any (·.result.hasViolationsAt v.config.failOnSeverity) = false := by
  rw [failed_lintFiles_eq_zero_iff s v hread, List.any_eq_false]
  constructor
  · intro hpass
    refine ⟨fun f hf => (hpass f hf).imp fun _ h => h.1, fun r hr => ?_⟩
    obtain ⟨f, hf, hfr⟩ := mem_reportsOf.1 hr
    obtain ⟨r', hr', hviol⟩ := hpass f hf
    rw [hfr] at hr'
    cases hr'
    simp [hviol]
  · rintro ⟨hparse, hviol⟩ f hf
    obtain ⟨r, hr⟩ := hparse f hf
    exact ⟨r, hr, by simpa using hviol r (mem_reportsOf.2 ⟨f, hf, hr⟩)⟩

end

section

variable {s : Store} {env : Environment} {format : OutputFormat} {rules : Option String}
  {source : ConfigSource} {v : Validator}

/-- Once set up, a check exits with 0 exactly when every file passes, with 2
exactly when every file reads and some file is not a document, and otherwise
with 1. -/
theorem exitCode_of_setsUp (files : List String) (hsv : SetsUp s rules source v)
    (hw : format = .github → ∀ p, env.get? "GITHUB_STEP_SUMMARY" = some p → s.Writable p) :
    (((runCheck Store.host env files format rules source).run' s).exitCode = 0 ↔
      AllPass s v files) ∧
    (((runCheck Store.host env files format rules source).run' s).exitCode = 2 ↔
      SomeUnparsed s v files) ∧
    (((runCheck Store.host env files format rules source).run' s).exitCode = 1 ↔
      ¬ AllPass s v files ∧ ¬ SomeUnparsed s v files) := by
  rw [runCheck_of_setsUp hsv]
  by_cases hread : AllRead s v files
  · rw [(checkFiles_of_allRead hw hread).1, allPass_iff hread, someUnparsed_iff hread]
    generalize ((lintFiles Store.host v files).run' s).failed = n
    generalize (reportsOf s v files).any (·.result.hasViolationsAt v.config.failOnSeverity) = b
    rcases Nat.eq_zero_or_pos n with rfl | hpos
    · cases b <;> simp
    · have hne : n ≠ 0 := Nat.pos_iff_ne_zero.1 hpos
      simp [hpos, hne]
  · -- a file that cannot be read: neither passing nor failing to parse can hold
    have hpass : ¬ AllPass s v files := fun h =>
      hread fun f hf => (h f hf).elim fun _ hr => ⟨_, hr.1⟩
    have hunparsed : ¬ SomeUnparsed s v files := fun h => hread h.1
    rw [(checkFiles_of_not_allRead hread).1]
    simp [hpass, hunparsed]

end

/-- How a check run ends: its exit code, and what it prints on standard output. -/
structure ExitStatus (s : Store) (files : List String) (format : OutputFormat)
    (rules : Option String) (source : ConfigSource) (o : Outcome) : Prop where
  success_iff : o.exitCode = 0 ↔ ∃ v, SetsUp s rules source v ∧ AllPass s v files
  parse_failure_iff : o.exitCode = 2 ↔ ∃ v, SetsUp s rules source v ∧ SomeUnparsed s v files
  failure_iff : o.exitCode = 1 ↔
    ¬ (∃ v, SetsUp s rules source v ∧ AllPass s v files) ∧
      ¬ (∃ v, SetsUp s rules source v ∧ SomeUnparsed s v files)
  reports_printed : ∀ v, SetsUp s rules source v → AllRead s v files →
    o.stdout = renderReports format (reportsOf s v files)
  silent_unless_read : (¬ ∃ v, SetsUp s rules source v ∧ AllRead s v files) → o.stdout = ""

/-- **How `check` exits.**  On a store where the step summary, if asked for, can
be written: the exit code is 0 exactly when the configuration loads, every
selector is known, the validator builds, and every file reads, parses and stays
below `fail-on`; it is 2 exactly when all of that but parsing holds for every
file and some file is not a document, whatever the other files report; and it
is 1 in every other case.  The reports of the files that parse are printed, in
argument order, whenever every file reads; when one does not, nothing is. -/
theorem check_exit_status (s : Store) (env : Environment) (files : List String)
    (format : OutputFormat) (rules : Option String) (source : ConfigSource)
    (hw : format = .github → ∀ p, env.get? "GITHUB_STEP_SUMMARY" = some p → s.Writable p) :
    ExitStatus s files format rules source
      ((runCheck Store.host env files format rules source).run' s) := by
  by_cases hs : ∃ v, SetsUp s rules source v
  · obtain ⟨v, hv⟩ := hs
    obtain ⟨h0, h2, h1⟩ := exitCode_of_setsUp files hv hw
    refine ⟨?_, ?_, ?_, fun v' hv' hread => ?_, fun hnot => ?_⟩
    · rw [h0, exists_setsUp_and_iff hv]
    · rw [h2, exists_setsUp_and_iff hv]
    · rw [h1, exists_setsUp_and_iff hv, exists_setsUp_and_iff hv]
    · obtain rfl := hv.unique hv'
      rw [runCheck_of_setsUp hv, (checkFiles_of_allRead hw hread).2]
    · rw [exists_setsUp_and_iff hv] at hnot
      rw [runCheck_of_setsUp hv, (checkFiles_of_not_allRead hnot).2]
  · obtain ⟨h1, hout⟩ := runCheck_of_not_setsUp env files format hs
    have hnone : ∀ P : Validator → Prop, ¬ ∃ v, SetsUp s rules source v ∧ P v :=
      fun P ⟨v, hv, _⟩ => hs ⟨v, hv⟩
    refine ⟨?_, ?_, ?_, fun v hv _ => absurd ⟨v, hv⟩ hs, fun _ => hout⟩ <;> rw [h1]
    · simp [hnone]
    · simp [hnone]
    · simp [hnone]

/-- A check of two files in GitHub format with the default configuration, the
step summary asked for in a directory that exists. -/
theorem check_exit_status_github_summary :
    (OutputFormat.github = .github → ∀ p,
      Environment.get? { vars := [("GITHUB_STEP_SUMMARY", "/w/summary.md")], workDir := "/w" }
        "GITHUB_STEP_SUMMARY" = some p →
      Store.Writable { files := [(["w", "a.yaml"], "openapi: 3.0.0\npaths: \x7b\x7d\n".toUTF8),
                                 (["w", "b.json"], "\x7b\"openapi\": \"3.0.0\"\x7d".toUTF8)],
                       dirs := [["w"]], workDir := ["w"] } p) ∧
    ExitStatus { files := [(["w", "a.yaml"], "openapi: 3.0.0\npaths: \x7b\x7d\n".toUTF8),
                           (["w", "b.json"], "\x7b\"openapi\": \"3.0.0\"\x7d".toUTF8)],
                 dirs := [["w"]], workDir := ["w"] }
      ["a.yaml", "b.json"] .github none .defaults
      ((runCheck Store.host { vars := [("GITHUB_STEP_SUMMARY", "/w/summary.md")], workDir := "/w" }
        ["a.yaml", "b.json"] .github none .defaults).run'
        { files := [(["w", "a.yaml"], "openapi: 3.0.0\npaths: \x7b\x7d\n".toUTF8),
                    (["w", "b.json"], "\x7b\"openapi\": \"3.0.0\"\x7d".toUTF8)],
          dirs := [["w"]], workDir := ["w"] }) := by
  refine ⟨?hw, check_exit_status _ _ _ _ _ _ ?hw⟩
  intro _ p hp
  simp only [Environment.get?, List.find?, beq_self_eq_true, Option.map_some, Option.some.injEq] at hp
  subst hp
  -- the summary is missing, in a directory that exists
  have hsplit : "/w/summary.md".splitOn "/" = ["", "w", "summary.md"] := by
    simp +decide [String.splitOn, String.splitOnAux]
  refine Store.writable_iff.mpr (.inr ⟨["w", "summary.md"], ?_⟩)
  rw [Store.resolve, hsplit]
  decide +kernel

end OpenApiLint
