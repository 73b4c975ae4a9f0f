import ArmScript.Command.Launch
import ArmScript.Proofs.Report.Closing

/-!
What a run leaves. Either it fails before anything is written, or it writes a whole report; and then the closing line
of the report, the failure, its text and the problems that are shown agree on what the analysis has found.
-/
set_option autoImplicit false

namespace ArmScript
open Text

def Failure.IsEarly : Failure → Prop
  | .unreadable _ | .config _ | .noInput => True
  | .analysis _ _ _ => False

theorem readOptions_isEarly {found : Option (String × Found)} {cause : Failure}
    (h : readOptions found = .error cause) : cause.IsEarly := by
  unfold readOptions at h
  split at h
  · cases h
  · split at h
    · cases h
      trivial
    · split at h
      · cases h
        trivial
      · split at h <;> cases h
        trivial

theorem Request.program_isEarly {r : Request} {disk : Disk} {cause : Failure}
    (h : r.program disk = .error cause) : cause.IsEarly := by
  unfold program at h
  split at h
  · split at h <;> cases h
    trivial
  · cases h
  · cases h
    trivial

theorem numbers_message (name source : String) (ds : List Diagnostic) :
    (numbers (Failure.analysis name source ds).message.toList).head? = some ds.length := by
  have words : isWords " problem(s) found in ".toList = true := by decide
  have text : (Failure.analysis name source ds).message.toList =
      (toString ds.length).toList ++ (" problem(s) found in ".toList ++ name.toList) := by
    simp [Failure.message, toString]
  rw [text, numbers_append_words words (by decide), numbers_toString]
  rfl

structure Failure.Counts (cause : Failure) (report name source : String) (ds : List Diagnostic) : Prop where
  holds : cause = .analysis name source ds
  closing : numbers (closingLine report).toList =
    [ds.length, countStage ds .lexical, countStage ds .grammar, countStage ds .semantic]
  stages : countStage ds .lexical + countStage ds .grammar + countStage ds .semantic = ds.length
  message : (numbers cause.message.toList).head? = some ds.length
  shown : cause.reportables = ds.map fun d => .finding d source
  shown_length : cause.reportables.length = ds.length

/-- The report on a script has been written, and all else that the run leaves agrees with it. -/
structure Outcome.Reports (o : Outcome) (name source : String) (options : ReportOptions) : Prop where
  report : o.report = ArmScript.report name (analyze source) options
  closing : closingLine o.report = "no problems found" ↔ o.failure = none
  clean : o.failure = none ↔ (analyze source).diagnostics = []
  problems : o.failure = none ∨
    ∃ cause, o.failure = some cause ∧ cause.Counts o.report name source (analyze source).diagnostics

theorem Failure.counts_analysis (name : String) {a : Analysis} (source : String) (options : ReportOptions)
    (found : a.diagnostics ≠ []) :
    (Failure.analysis name source a.diagnostics).Counts (ArmScript.report name a options) name source
      a.diagnostics where
  holds := rfl
  closing := by
    rw [closingLine_report]
    exact numbers_summary found
  stages := sum_countStage a.diagnostics
  message := numbers_message name source a.diagnostics
  shown := rfl
  shown_length := List.length_map ..

theorem runProgram_reports (name source : String) (options : ReportOptions) (notices : List Notice) :
    (runProgram name source options notices).Reports name source options := by
  have closing := closingLine_report name (analyze source) options
  by_cases clean : (analyze source).diagnostics = []
  · have quiet : (analyze source).isClean = true := List.isEmpty_iff.mpr clean
    have same : closingLine (ArmScript.report name (analyze source) options) = "no problems found" :=
      closing.trans (summary_eq_clean_iff.mpr clean)
    simp only [runProgram, quiet, if_true]
    exact ⟨rfl, iff_of_true same rfl, iff_of_true rfl clean, .inl rfl⟩
  · have loud : (analyze source).isClean = false := by simpa [Analysis.isClean] using clean
    have differs : closingLine (ArmScript.report name (analyze source) options) ≠ "no problems found" := by
      rw [closing]
      exact fun same => clean (summary_eq_clean_iff.mp same)
    simp only [runProgram, loud, Bool.false_eq_true, if_false]
    exact ⟨rfl, iff_of_false differs nofun, iff_of_false nofun clean,
      .inr ⟨_, rfl, Failure.counts_analysis name source options clean⟩⟩

theorem run_early_or_reports (r : Request) (disk : Disk) :
    (∃ cause, (readOptions ((r.configSource disk).file? disk) = .error cause ∨ r.program disk = .error cause) ∧
        (run r disk).failure = some cause ∧ cause.IsEarly ∧ (run r disk).report = "") ∨
      ∃ name source settings, readOptions ((r.configSource disk).file? disk) = .ok settings ∧
        r.program disk = .ok (name, source) ∧ (run r disk).Reports name source (r.reportOptions settings) := by
  rw [run]
  cases settled : readOptions ((r.configSource disk).file? disk) with
  | error cause => exact .inl ⟨cause, .inl rfl, rfl, readOptions_isEarly settled, rfl⟩
  | ok settings =>
    cases chosen : r.program disk with
    | error cause => exact .inl ⟨cause, .inr rfl, rfl, Request.program_isEarly chosen, rfl⟩
    | ok program => exact .inr ⟨program.1, program.2, settings, rfl, rfl, runProgram_reports _ _ _ _⟩

theorem launch_of_request {args : List String} {r : Request} (h : Request.ofArguments args = .ok r) (disk : Disk) :
    (launch args disk).output = (run r disk).report ∧
      (launch args disk).reportables = ((run r disk).failure.map Failure.reportables).getD [] ∧
      ((launch args disk).status = 0 ↔ (run r disk).failure = none) ∧
      ((launch args disk).status = 1 ↔ (run r disk).failure ≠ none) := by
  simp only [launch, h]
  cases (run r disk).failure with
  | none => simp
  | some cause => simp

/--
A run that cannot have its settings or its script fails early, with nothing written. Any other reports on the script
that was asked for, and then the closing line, the failure, its text and the problems that are shown agree on the
findings. The command ends with zero just when its run did not fail, else with one.
-/
theorem run_agrees (r : Request) (disk : Disk) :
    ((∃ cause, (readOptions ((r.configSource disk).file? disk) = .error cause ∨ r.program disk = .error cause) ∧
        (run r disk).failure = some cause ∧ cause.IsEarly ∧ (run r disk).report = "") ∨
      ∃ name source settings, readOptions ((r.configSource disk).file? disk) = .ok settings ∧
        r.program disk = .ok (name, source) ∧ (run r disk).Reports name source (r.reportOptions settings)) ∧
      ∀ args, Request.ofArguments args = .ok r →
        (launch args disk).output = (run r disk).report ∧
          (launch args disk).reportables = ((run r disk).failure.map Failure.reportables).getD [] ∧
          ((launch args disk).status = 0 ↔ (run r disk).failure = none) ∧
          ((launch args disk).status = 1 ↔ (run r disk).failure ≠ none) :=
  ⟨run_early_or_reports r disk, fun _ h => launch_of_request h disk⟩

def undeclaredOnDisk : Disk := ⟨fun path => if path = "a.rob" then .text "r3.iniciar" else .missing, none⟩

theorem run_agrees_undeclared :
    Request.ofArguments ["--no-tokens", "a.rob", "--no-symbols"] =
        .ok ⟨some "a.rob", none, none, true, true, "warn"⟩ ∧
      (launch ["--no-tokens", "a.rob", "--no-symbols"] undeclaredOnDisk).status = 1 ∧
      (launch ["--no-tokens", "a.rob", "--no-symbols"] undeclaredOnDisk).output =
        "a.rob\n\n1 problem found (0 lexical, 0 syntax, 1 semantic)\n" ∧
      (launch ["--no-tokens", "a.rob", "--no-symbols"] undeclaredOnDisk).reportables.length = 1 := by
  have request : Request.ofArguments ["--no-tokens", "a.rob", "--no-symbols"] =
      .ok ⟨some "a.rob", none, none, true, true, "warn"⟩ := by decide +kernel
  have failed : (run ⟨some "a.rob", none, none, true, true, "warn"⟩ undeclaredOnDisk).failure ≠ none := by
    decide +kernel
  have report : (run ⟨some "a.rob", none, none, true, true, "warn"⟩ undeclaredOnDisk).report =
      "a.rob\n\n1 problem found (0 lexical, 0 syntax, 1 semantic)\n" := by decide +kernel
  obtain ⟨output, shown, -, status⟩ := (run_agrees _ undeclaredOnDisk).2 _ request
  refine ⟨request, status.mpr failed, output.trans report, ?_⟩
  rw [shown]
  decide +kernel

end ArmScript
