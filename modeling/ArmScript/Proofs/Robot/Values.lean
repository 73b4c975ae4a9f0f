import Mathlib.Algebra.Group.Int.Defs
import ArmScript.Robot.Call

set_option autoImplicit false

namespace ArmScript

namespace Text

section Digits
variable {digits : List Char} (h : ∀ c ∈ digits, c.isDigit = true)
include h

theorem readDigits_eq_some (value : Nat) : readDigits value digits = some (Nat.ofDigitChars 10 digits value) := by
  induction digits generalizing value with
  | nil => rfl
  | cons c digits ih =>
    obtain ⟨first, others⟩ := List.forall_mem_cons.mp h
    rw [readDigits, if_pos first, ih others]
    rfl

theorem readNatural?_eq_some (nonempty : digits ≠ []) : readNatural? digits = some (Nat.ofDigitChars 10 digits 0) := by
  cases digits with
  | nil => exact absurd rfl nonempty
  | cons c digits => exact readDigits_eq_some h 0

/-- Digits have a value as long as there is a sixty-four bit integer for it. Without a sign none is too small. -/
theorem readInteger?_digits (nonempty : digits ≠ []) :
    readInteger? digits =
      if (Nat.ofDigitChars 10 digits 0 : Int) ≤ 2 ^ 63 - 1 then some (Nat.ofDigitChars 10 digits 0 : Int)
      else none := by
  have unsigned : ∀ c ∈ digits, c ≠ '-' ∧ c ≠ '+' := by
    intro c hc
    constructor <;> rintro rfl <;> exact absurd (h _ hc) (by decide)
  obtain ⟨least, greatest⟩ : smallestInteger ≤ 0 ∧ largestInteger = 2 ^ 63 - 1 := by decide
  have notSmall : smallestInteger ≤ (Nat.ofDigitChars 10 digits 0 : Int) := Int.le_trans least (Int.natCast_nonneg _)
  unfold readInteger?
  split
  · exact absurd rfl (unsigned _ List.mem_cons_self).1
  · exact absurd rfl (unsigned _ List.mem_cons_self).2
  · rw [readNatural?_eq_some h nonempty, Option.map_some, Option.filter_some, greatest]
    simp [notSmall]

end Digits

end Text

def CallFault.IsAt (fault : CallFault) (code : Code) (word : Token) : Prop :=
  fault.diagnostic.code = some code ∧ fault.diagnostic.position = word.position ∧
    fault.diagnostic.labels.map (fun label => (label.span, label.isPrimary)) = [(word.span, true)]

/-- The greatest value of an open range is the greatest one that can be read. -/
def ValueRange.limit (r : ValueRange) : Int := r.greatest.getD (2 ^ 63 - 1)

theorem ValueRange.contains_iff_le_limit {range : ValueRange} {value : Int} (readable : value ≤ 2 ^ 63 - 1) :
    range.contains value = true ↔ range.least ≤ value ∧ value ≤ range.limit := by
  rw [contains_iff, limit]
  cases range.greatest with
  | none => simpa using fun _ => readable
  | some greatest => simp

section Range
variable {method : Method} {range : ValueRange} (takes : method.range = some range)
include takes

theorem Method.limit_le : range.limit ≤ 2 ^ 63 - 1 := by
  cases method <;> simp only [Method.range, Option.some.injEq, reduceCtorEq] at takes <;> subst takes <;> decide

theorem checkArgument_digits (argument : Token) (digits : ∀ c ∈ argument.lexeme.toList, c.isDigit = true) :
    checkArgument method range argument =
      if argument.lexeme.toList ≠ [] ∧ range.least ≤ (Nat.ofDigitChars 10 argument.lexeme.toList 0 : Int) ∧
          (Nat.ofDigitChars 10 argument.lexeme.toList 0 : Int) ≤ range.limit then none
      else some (.outOfRange method range argument) := by
  have whole : argument.lexeme.toList.contains '.' = false := by
    rw [← Bool.not_eq_true, List.contains_iff_mem]
    exact fun point => absurd (digits '.' point) (by decide)
  rw [checkArgument, whole, if_neg Bool.false_ne_true]
  by_cases nonempty : argument.lexeme.toList = []
  · simp [nonempty, Text.readInteger?, Text.readNatural?]
  · have limit := Method.limit_le takes
    rw [Text.readInteger?_digits digits nonempty]
    by_cases readable : (Nat.ofDigitChars 10 argument.lexeme.toList 0 : Int) ≤ 2 ^ 63 - 1
    · simp only [if_pos readable, Option.any_some, ValueRange.contains_iff_le_limit readable, nonempty, ne_eq,
        not_false_eq_true, true_and]
    · have tooLarge : ¬(Nat.ofDigitChars 10 argument.lexeme.toList 0 : Int) ≤ range.limit := fun below =>
        readable (Int.le_trans below limit)
      rw [if_neg readable, Option.any_none]
      simp [tooLarge]

end Range

theorem checkArgument_decimal {method : Method} {range : ValueRange} {argument : Token}
    (point : '.' ∈ argument.lexeme.toList) :
    checkArgument method range argument = some (.fractional method argument) := by
  rw [checkArgument, if_pos (List.contains_iff_mem.mpr point)]

namespace RobotTable

theorem checkCall_eq_append {method : Method} {range : ValueRange} (takes : method.range = some range) (t : RobotTable)
    (robot argument : Token) :
    t.checkCall robot method (some argument) =
      (if t.isDeclared robot.lexeme then [] else [.undeclared robot]) ++
        (checkArgument method range argument).toList := by
  simp only [checkCall, takes]

/-- A value of digits is accepted exactly when it is one of the range, where digits are at least one and denote a
natural number. All other digits have one fault, and a lexeme with a point in it always has one of its own, whatever
stands around the point. A robot that is not declared has its fault in front of these, and changes nothing about
them. -/
theorem checkCall_exact (t : RobotTable) (robot argument : Token) {method : Method} {range : ValueRange}
    (takes : method.range = some range) :
    let lexeme := argument.lexeme.toList
    let value : Int := Nat.ofDigitChars 10 lexeme 0
    let name := if t.isDeclared robot.lexeme then [] else [CallFault.undeclared robot]
    let faults := t.checkCall robot method (some argument)
    ((∀ c ∈ lexeme, c.isDigit = true) →
        faults = name ++ if lexeme ≠ [] ∧ range.least ≤ value ∧ value ≤ range.greatest.getD (2 ^ 63 - 1) then []
          else [.outOfRange method range argument]) ∧
      (∀ whole fraction, lexeme = whole ++ '.' :: fraction → faults = name ++ [.fractional method argument]) ∧
      (∀ u : RobotTable, u.isDeclared robot.lexeme = true →
        faults = name ++ u.checkCall robot method (some argument)) ∧
      (CallFault.undeclared robot).IsAt .e200 robot ∧ (CallFault.outOfRange method range argument).IsAt .e202 argument ∧
      (CallFault.fractional method argument).IsAt .e203 argument := by
  intro lexeme value name faults
  have split : faults = name ++ (checkArgument method range argument).toList :=
    checkCall_eq_append takes t robot argument
  refine ⟨fun digits => ?_, fun whole fraction decimal => ?_, fun u declared => ?_, ⟨rfl, rfl, rfl⟩, ⟨rfl, rfl, rfl⟩,
    ⟨rfl, rfl, rfl⟩⟩
  · rw [split, checkArgument_digits takes argument digits, apply_ite Option.toList]
    rfl
  · have point : '.' ∈ lexeme := by simp [decimal]
    rw [split, checkArgument_decimal point]
    rfl
  · rw [split, checkCall_eq_append takes u, if_pos declared, List.nil_append]

/-- One more than the greatest integer that can be read, behind zeros. -/
theorem checkCall_exact_past_limit :
    Method.repetir.range = some ⟨1, none⟩ ∧
      empty.checkCall ⟨"r", .identifier, .start, ⟨0, 1⟩⟩ .repetir
          (some ⟨"000009223372036854775808", .number, ⟨1, 11⟩, ⟨10, 34⟩⟩) =
        [.undeclared ⟨"r", .identifier, .start, ⟨0, 1⟩⟩,
          .outOfRange .repetir ⟨1, none⟩ ⟨"000009223372036854775808", .number, ⟨1, 11⟩, ⟨10, 34⟩⟩] := by
  have takes : Method.repetir.range = some ⟨1, none⟩ := rfl
  refine ⟨takes, ?_⟩
  have digits : "000009223372036854775808".toList.all Char.isDigit = true := by decide
  have exact := (checkCall_exact empty ⟨"r", .identifier, .start, ⟨0, 1⟩⟩
    ⟨"000009223372036854775808", .number, ⟨1, 11⟩, ⟨10, 34⟩⟩ takes).1 (List.all_eq_true.mp digits)
  exact exact.trans (by decide)

end RobotTable

end ArmScript
