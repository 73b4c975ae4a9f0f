set_option autoImplicit false

namespace ArmScript.Text

/-- The longest stretches without a break. -/
def runs (isBreak : Char → Bool) (text : List Char) : List (List Char) :=
  (text.splitOnP isBreak).filter fun run => !run.isEmpty

section Runs
variable {isBreak : Char → Bool}

theorem runs_append_break {c : Char} (hc : isBreak c = true) (before behind : List Char) :
    runs isBreak (before ++ c :: behind) = runs isBreak before ++ runs isBreak behind := by
  rw [runs, List.splitOnP_append_cons before behind hc, List.filter_append, runs, runs]

theorem runs_breaks {breaks : List Char} (h : ∀ c ∈ breaks, isBreak c = true) (text : List Char) :
    runs isBreak (breaks ++ text) = runs isBreak text := by
  induction breaks with
  | nil => rfl
  | cons c breaks ih =>
    obtain ⟨first, others⟩ := List.forall_mem_cons.mp h
    have apart := runs_append_break first [] (breaks ++ text)
    rw [List.nil_append] at apart
    rw [List.cons_append, apart, ih others]
    rfl

theorem runs_append_breaks {breaks : List Char} (nonempty : breaks ≠ []) (h : ∀ c ∈ breaks, isBreak c = true)
    (before behind : List Char) :
    runs isBreak (before ++ (breaks ++ behind)) = runs isBreak before ++ runs isBreak behind := by
  cases breaks with
  | nil => exact absurd rfl nonempty
  | cons c breaks =>
    obtain ⟨first, others⟩ := List.forall_mem_cons.mp h
    rw [List.cons_append, runs_append_break first, runs_breaks others]

theorem runs_eq_singleton {run : List Char} (nonempty : run ≠ []) (h : ∀ c ∈ run, isBreak c = false) :
    runs isBreak run = [run] := by
  rw [runs, List.splitOnP_eq_singleton h]
  simp [nonempty]

end Runs

/-- The numbers that stand in a text, as their digits give them. -/
def numbers (text : List Char) : List Nat :=
  (runs (fun c => !c.isDigit) text).map fun digits => Nat.ofDigitChars 10 digits 0

def isWords (text : List Char) : Bool := text.all fun c => !c.isDigit

section Numbers
variable {words : List Char} (h : isWords words = true)
include h

theorem numbers_words (text : List Char) : numbers (words ++ text) = numbers text := by
  rw [numbers, runs_breaks (List.all_eq_true.mp h), numbers]

theorem numbers_eq_nil : numbers words = [] := by
  have alone := numbers_words h []
  rwa [List.append_nil] at alone

theorem numbers_append_words (nonempty : words ≠ []) (before behind : List Char) :
    numbers (before ++ (words ++ behind)) = numbers before ++ numbers behind := by
  rw [numbers, runs_append_breaks nonempty (List.all_eq_true.mp h), List.map_append, numbers, numbers]

end Numbers

theorem isDigit_toString {n : Nat} {c : Char} (hc : c ∈ (toString n).toList) : c.isDigit = true := by
  rw [Nat.toString_eq_ofList_toDigits, String.toList_ofList] at hc
  exact Nat.isDigit_of_mem_toDigits (by decide) (by decide) hc

theorem numbers_toString (n : Nat) : numbers (toString n).toList = [n] := by
  have digits : runs (fun c => !c.isDigit) (toString n).toList = [(toString n).toList] := by
    refine runs_eq_singleton ?_ fun c hc => by rw [isDigit_toString hc]; rfl
    rw [Nat.toString_eq_ofList_toDigits, String.toList_ofList]
    exact Nat.toDigits_ne_nil
  rw [numbers, digits, List.map_singleton, Nat.toString_eq_ofList_toDigits, String.toList_ofList,
    Nat.ofDigitChars_ten_toDigits]

end ArmScript.Text
