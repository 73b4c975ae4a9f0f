import ArmScript.Proofs.Text.Runs
import ArmScript.Proofs.Token.Columns
import ArmScript.Report.Basic

set_option autoImplicit false

namespace ArmScript
open Text

/-- The last line of a text whose lines all end with a line feed. -/
def closingLine (text : String) : String := String.ofList (lastLine text.toList.dropLast)

theorem lastLine_behind_lineFeed {line : List Char} (h : '\n' ∉ line) (before : List Char) :
    lastLine (before ++ '\n' :: line) = line := by
  induction line using List.reverseRecOn with
  | nil => exact lastLine_lineFeed before
  | append_singleton line c ih =>
    obtain ⟨others, last⟩ : '\n' ∉ line ∧ c ≠ '\n' := by simpa [eq_comm] using h
    have split : before ++ '\n' :: (line ++ [c]) = before ++ '\n' :: line ++ [c] := by simp
    rw [split, lastLine_concat last, ih others]

def counted (parts : List (Nat × String)) : List Char :=
  parts.flatMap fun (number, words) => (toString number).toList ++ words.toList

section Counted
variable {parts : List (Nat × String)}

theorem numbers_counted (h : ∀ part ∈ parts, part.2.toList ≠ [] ∧ isWords part.2.toList = true) :
    numbers (counted parts) = parts.map Prod.fst := by
  induction parts with
  | nil => rfl
  | cons part parts ih =>
    obtain ⟨⟨nonempty, words⟩, others⟩ := List.forall_mem_cons.mp h
    rw [counted, List.flatMap_cons, List.append_assoc, numbers_append_words words nonempty, numbers_toString,
      ← counted, ih others]
    rfl

theorem notMem_counted {c : Char} (nonDigit : c.isDigit = false) (h : ∀ part ∈ parts, c ∉ part.2.toList) :
    c ∉ counted parts := by
  rw [counted, List.mem_flatMap]
  rintro ⟨part, hp, hc⟩
  rcases List.mem_append.mp hc with digit | word
  · exact absurd (isDigit_toString digit) (by simp [nonDigit])
  · exact h part hp word

end Counted

def summaryParts (ds : List Diagnostic) : List (Nat × String) :=
  [(ds.length, if ds.length = 1 then " problem found (" else " problems found ("),
    (countStage ds .lexical, " lexical, "), (countStage ds .grammar, " syntax, "),
    (countStage ds .semantic, " semantic)")]

theorem toList_summary {ds : List Diagnostic} (h : ds ≠ []) : (summary ds).toList = counted (summaryParts ds) := by
  have found : ds.isEmpty = false := by simpa using h
  rw [summary, found]
  by_cases one : ds.length = 1
  · simp [counted, summaryParts, one, toString]
  · simp [counted, summaryParts, one, toString]

theorem forall_mem_summaryParts {p : String → Prop} (ds : List Diagnostic) (one : p " problem found (")
    (more : p " problems found (") (lexical : p " lexical, ") (grammar : p " syntax, ") (semantic : p " semantic)") :
    ∀ part ∈ summaryParts ds, p part.2 := by
  simp only [summaryParts, List.forall_mem_cons]
  split <;> simp [*]

theorem numbers_summary {ds : List Diagnostic} (h : ds ≠ []) :
    numbers (summary ds).toList =
      [ds.length, countStage ds .lexical, countStage ds .grammar, countStage ds .semantic] := by
  rw [toList_summary h, numbers_counted]
  · rfl
  · exact forall_mem_summaryParts (p := fun words => words.toList ≠ [] ∧ isWords words.toList = true) ds
      (by decide) (by decide) (by decide) (by decide) (by decide)

theorem lineFeed_notMem_summary (ds : List Diagnostic) : '\n' ∉ (summary ds).toList := by
  by_cases clean : ds = []
  · subst clean
    decide
  · rw [toList_summary clean]
    refine notMem_counted (by decide) ?_
    exact forall_mem_summaryParts (p := fun words => '\n' ∉ words.toList) ds (by decide) (by decide) (by decide)
      (by decide) (by decide)

theorem summary_eq_clean_iff {ds : List Diagnostic} : summary ds = cleanSummary ↔ ds = [] := by
  constructor
  · intro same
    by_contra found
    -- the clean summary has no numbers, and any other has four
    have none : numbers cleanSummary.toList = [] := numbers_eq_nil (by decide)
    rw [← same, numbers_summary found] at none
    cases none
  · intro clean
    rw [clean]
    rfl

theorem closingLine_report (name : String) (a : Analysis) (options : ReportOptions) :
    closingLine (report name a options) = summary a.diagnostics := by
  obtain ⟨lines, split⟩ : ∃ lines, reportLines name a options = lines ++ ["", summary a.diagnostics] := ⟨_, rfl⟩
  have ended : report name a options =
      String.join (lines.map fun line => line ++ "\n") ++ "\n" ++ summary a.diagnostics ++ "\n" := by
    rw [report, split, List.map_append, String.join_append]
    simp [String.join_cons, String.append_assoc]
  have lineFeed : "\n".toList = ['\n'] := rfl
  rw [closingLine, ended, String.toList_append, lineFeed, List.dropLast_concat, String.toList_append,
    String.toList_append, lineFeed, List.append_assoc, List.singleton_append,
    lastLine_behind_lineFeed (lineFeed_notMem_summary _), String.ofList_toList]

end ArmScript
