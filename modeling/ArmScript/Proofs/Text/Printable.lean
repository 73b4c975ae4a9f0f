import ArmScript.Proofs.Text.Runs
import ArmScript.Text.Escape
import Mathlib.Data.List.TakeWhile
import Mathlib.Tactic.SplitIfs

set_option autoImplicit false

namespace ArmScript.Text

/-- Whether no code point lies in a range of each. Ranges of the second list that end before one of the first are not
looked at again. -/
def apart : List (Nat × Nat) → List (Nat × Nat) → Bool
  | [], _ => true
  | r :: rest, others =>
    let behind := others.dropWhile fun s => decide (s.2 < r.1)
    (behind.head?.all fun s => decide (r.2 < s.1)) && apart rest behind

section Apart
variable {ranges others : List (Nat × Nat)}

theorem increasing_tail {r : Nat × Nat} (h : increasing (r :: ranges) = true) :
    r.1 ≤ r.2 ∧ increasing ranges = true := by
  simp only [increasing, Bool.and_eq_true, decide_eq_true_eq] at h
  exact ⟨h.1.1, h.2⟩

theorem increasing_dropWhile (p : Nat × Nat → Bool) (h : increasing ranges = true) :
    increasing (ranges.dropWhile p) = true := by
  induction ranges with
  | nil => exact h
  | cons r ranges ih =>
    rw [List.dropWhile_cons]
    split
    · exact ih (increasing_tail h).2
    · exact h

theorem before_or_behind (h : increasing ranges = true) (ho : increasing others = true)
    (separate : apart ranges others = true) : ∀ r ∈ ranges, ∀ s ∈ others, s.2 < r.1 ∨ r.2 < s.1 := by
  induction ranges generalizing others with
  | nil => nofun
  | cons r ranges ih =>
    simp only [apart, Bool.and_eq_true] at separate
    obtain ⟨next, rest⟩ := separate
    have ordered := increasing_tail h
    have left : ∀ s ∈ others, s.2 < r.1 ∨ s ∈ others.dropWhile fun s => decide (s.2 < r.1) := by
      intro s hs
      rw [← List.takeWhile_append_dropWhile (p := fun s => decide (s.2 < r.1)) (l := others)] at hs
      rcases List.mem_append.mp hs with low | high
      · exact .inl (of_decide_eq_true (List.mem_takeWhile_imp low :))
      · exact .inr high
    have kept := increasing_dropWhile (fun s => decide (s.2 < r.1)) ho
    refine List.forall_mem_cons.mpr ⟨fun s hs => (left s hs).imp_right fun high => ?_, fun q hq s hs => ?_⟩
    · cases behind : others.dropWhile fun s => decide (s.2 < r.1) with
      | nil => simp [behind] at high
      | cons first more =>
        rw [behind] at next high kept
        have lower : r.2 < first.1 := of_decide_eq_true next
        rcases List.mem_cons.mp high with rfl | later
        · exact lower
        · have := lt_of_increasing kept later
          have := (increasing_tail kept).1
          omega
    · rcases left s hs with low | high
      · have := lt_of_increasing h hq
        exact .inl (by omega)
      · exact ih ordered.2 kept rest q hq s high

theorem inRanges_eq_false_of_apart (h : increasing ranges = true) (ho : increasing others = true)
    (separate : apart ranges others = true) {n : Nat} (hn : inRanges n ranges = true) : inRanges n others = false := by
  cases found : inRanges n others with
  | false => rfl
  | true =>
    obtain ⟨r, hr, low, high⟩ := exists_of_inRanges hn
    obtain ⟨s, hs, low', high'⟩ := exists_of_inRanges found
    have := before_or_behind h ho separate r hr s hs
    omega

end Apart

/-- The general category `Cc`. -/
def controlRanges : List (Nat × Nat) := [(0x0, 0x1F), (0x7F, 0x9F)]

/-- What ends a line: line feed and the three controls behind it, the next line, and both separators. -/
def lineBreakRanges : List (Nat × Nat) := [(0xA, 0xD), (0x85, 0x85), (0x2028, 0x2029)]

def isControl (c : Char) : Bool := inRanges c.toNat controlRanges

def isLineBreak (c : Char) : Bool := inRanges c.toNat lineBreakRanges

section Characters
variable {c : Char}

theorem isPrintable_of_apart {ranges : List (Nat × Nat)} (h : increasing ranges = true)
    (separate : apart ranges unprintableRanges = true) (hc : inRanges c.toNat ranges = true) :
    isPrintable c = true := by
  rw [isPrintable, inRanges_eq_false_of_apart h unprintableRanges_increasing separate hc]
  rfl

theorem isPrintable_of_isAlphabetic (h : isAlphabetic c = true) : isPrintable c = true :=
  isPrintable_of_apart alphabeticRanges_increasing (by decide +kernel) h

theorem isPrintable_of_isNumeric (h : isNumeric c = true) : isPrintable c = true :=
  isPrintable_of_apart numericRanges_increasing (by decide +kernel) h

theorem isPrintable_of_ascii (low : 0x20 ≤ c.toNat) (high : c.toNat ≤ 0x7E) : isPrintable c = true := by
  have ascii : inRanges c.toNat [(0x20, 0x7E)] = true := by simp [inRanges, low, high]
  exact isPrintable_of_apart (by decide) (by decide +kernel) ascii

theorem isPrintable_of_isWordPart (h : isWordPart c = true) : isPrintable c = true := by
  simp only [isWordPart, Bool.or_eq_true, beq_iff_eq] at h
  rcases h with (letter | digit) | rfl
  · exact isPrintable_of_isAlphabetic letter
  · exact isPrintable_of_isNumeric digit
  · decide

theorem isPrintable_of_isDigit (h : c.isDigit = true) : isPrintable c = true := by
  obtain ⟨low, high⟩ : 0x30 ≤ c.toNat ∧ c.toNat ≤ 0x39 := Char.isDigit_iff_toNat.mp h
  exact isPrintable_of_ascii (by omega) (by omega)

theorem isPrintable_eq_false_of_covered {ranges : List (Nat × Nat)}
    (covered : (ranges.all fun r => unprintableRanges.any fun s => decide (s.1 ≤ r.1) && decide (r.2 ≤ s.2)) = true)
    (hc : inRanges c.toNat ranges = true) : isPrintable c = false := by
  obtain ⟨r, hr, low, high⟩ := exists_of_inRanges hc
  obtain ⟨s, hs, wide⟩ := List.any_eq_true.mp (List.all_eq_true.mp covered r hr)
  simp only [Bool.and_eq_true, decide_eq_true_eq] at wide
  have inside : inRanges c.toNat unprintableRanges = true :=
    (inRanges_iff unprintableRanges_increasing).mpr ⟨s, hs, by omega, by omega⟩
  rw [isPrintable, inside]
  rfl

theorem isControl_eq_false (h : isPrintable c = true) : isControl c = false := by
  cases control : isControl c with
  | false => rfl
  | true =>
    rw [isPrintable_eq_false_of_covered (by decide +kernel) control] at h
    cases h

theorem isLineBreak_eq_false (h : isPrintable c = true) : isLineBreak c = false := by
  cases ends : isLineBreak c with
  | false => rfl
  | true =>
    rw [isPrintable_eq_false_of_covered (by decide +kernel) ends] at h
    cases h

end Characters

def isPlain (text : String) : Bool := text.toList.all isPrintable

section Plain

@[simp]
theorem isPlain_append (text more : String) : isPlain (text ++ more) = (isPlain text && isPlain more) := by
  rw [isPlain, String.toList_append, List.all_append]
  rfl

theorem isPlain_ofList {cs : List Char} (h : ∀ c ∈ cs, isPrintable c = true) : isPlain (String.ofList cs) = true := by
  rw [isPlain, String.toList_ofList]
  exact List.all_eq_true.mpr h

@[simp]
theorem isPlain_nat (n : Nat) : isPlain n.repr = true :=
  List.all_eq_true.mpr fun _ hc => isPrintable_of_isDigit (isDigit_toString hc)

@[simp]
theorem isPlain_int (i : Int) : isPlain i.repr = true := by
  cases i with
  | ofNat n => exact isPlain_nat n
  | negSucc n =>
    have text : (Int.negSucc n).repr = "-" ++ (n + 1).repr := rfl
    rw [text, isPlain_append, isPlain_nat]
    rfl

theorem isPrintable_digitChar (n : Nat) : isPrintable n.digitChar = true := by
  rcases Nat.lt_or_ge n 16 with digit | large
  · have digits : ∀ n < 16, isPrintable (Nat.digitChar n) = true := by decide +kernel
    exact digits n digit
  · rw [Nat.digitChar_eq_star.mpr large]
    decide

theorem isPrintable_of_mem_toDigitsCore {base fuel n : Nat} {digits : List Char}
    (h : ∀ c ∈ digits, isPrintable c = true) : ∀ c ∈ Nat.toDigitsCore base fuel n digits, isPrintable c = true := by
  induction fuel generalizing n digits with
  | zero => exact h
  | succ fuel ih =>
    have more : ∀ c ∈ (n % base).digitChar :: digits, isPrintable c = true :=
      List.forall_mem_cons.mpr ⟨isPrintable_digitChar _, h⟩
    rw [Nat.toDigitsCore]
    split
    · exact more
    · exact ih more

theorem isPrintable_of_mem_codePoint {c d : Char} (h : d ∈ codePoint c) : isPrintable d = true := by
  have front : ∀ d ∈ ['\\', 'u', '{'], isPrintable d = true := List.all_eq_true.mp (by decide)
  have digits : ∀ d ∈ Nat.toDigits 16 c.toNat, isPrintable d = true := isPrintable_of_mem_toDigitsCore nofun
  simp only [codePoint, List.mem_append] at h
  rcases h with (early | digit) | last
  · exact front d early
  · exact digits d digit
  · rw [List.mem_singleton.mp last]
    decide

/-- A character stands for itself only if it prints. -/
theorem isPrintable_of_mem_escape {rule : EscapeRule} {c d : Char} (h : d ∈ rule.escape c) : isPrintable d = true := by
  have escaped : ∀ letter : Char, isPrintable letter = true → d ∈ ['\\', letter] → isPrintable d = true := by
    intro letter printable here
    rcases List.mem_cons.mp here with rfl | last
    · decide
    · exact List.mem_singleton.mp last ▸ printable
  unfold EscapeRule.escape at h
  split_ifs at h with _ _ _ _ _ _ _ _ printable
  any_goals exact escaped _ (by decide) h
  · exact isPrintable_of_mem_codePoint h
  · exact List.mem_singleton.mp h ▸ printable
  · exact isPrintable_of_mem_codePoint h

@[simp]
theorem isPlain_visible (text : String) : isPlain (visible text) = true := by
  unfold visible
  split
  · rfl
  · refine isPlain_ofList (List.forall_mem_append.mpr ⟨fun _ => isPrintable_of_mem_escape, fun d hd => ?_⟩)
    obtain ⟨_, -, inside⟩ := List.mem_flatMap.mp hd
    exact isPrintable_of_mem_escape inside

end Plain

end ArmScript.Text
