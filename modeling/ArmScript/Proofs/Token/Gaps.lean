import ArmScript.Proofs.Token.Unique

/-!
Words with other gaps between them. A word stays what it is where blanks come to stand behind it, and a gap in front of
a text that starts with a gap is one gap.
-/
set_option autoImplicit false

namespace ArmScript

theorem isWordPart_of_isBlank {c : Char} (h : Text.isBlank c = true) : Text.isWordPart c = false := by
  have apart : Text.blankRanges.all (fun r => (List.range' r.1 (r.2 + 1 - r.1)).all fun n =>
      !Text.inRanges n Text.alphabeticRanges && !Text.inRanges n Text.numericRanges && n != '_'.toNat) = true := by
    decide +kernel
  obtain ⟨r, hr, low, high⟩ := Text.exists_of_inRanges h
  have within : c.toNat ∈ List.range' r.1 (r.2 + 1 - r.1) := List.mem_range'_1.mpr ⟨low, by omega⟩
  have single := List.all_eq_true.mp (List.all_eq_true.mp apart r hr) _ within
  simp only [Bool.and_eq_true, Bool.not_eq_true', bne_iff_ne] at single
  obtain ⟨⟨letter, digit⟩, other⟩ := single
  have noLine : c ≠ '_' := fun same => other (same ▸ rfl)
  simp [Text.isWordPart, Text.isAlphabetic, Text.isNumeric, letter, digit, noLine]

theorem isDigit_of_isBlank {c : Char} (h : Text.isBlank c = true) : c.isDigit = false := by
  cases hd : c.isDigit with
  | false => rfl
  | true => rw [isBlank_of_isDigit hd] at h; cases h

theorem isBlank_of_endsLine {c : Char} (h : endsLine c = true) : Text.isBlank c = true := by
  simp only [endsLine, Bool.or_eq_true, beq_iff_eq] at h
  rcases h with rfl | rfl <;> decide

theorem Piece.Precedes.solid {piece : Piece} {rest : List Char} (h : piece.Precedes rest)
    (significant : piece.kind.isTrivia = false) : ∀ c ∈ piece.text, Text.isBlank c = false := by
  cases h with
  | comment within ends => cases significant
  | blank all ends => cases significant
  | whole digits ends pointless => exact fun c hc => isBlank_of_isDigit (digits c hc)
  | decimal digits decimals ends =>
    refine List.forall_mem_append.mpr ⟨fun c hc => isBlank_of_isDigit (digits c hc), List.forall_mem_cons.mpr ⟨?_, ?_⟩⟩
    · decide
    · exact fun c hc => isBlank_of_isDigit (decimals c hc)
  | word blank start parts ends =>
    refine List.forall_mem_cons.mpr ⟨blank, fun c hc => Bool.eq_false_iff.mpr fun hb => ?_⟩
    have part := parts c hc
    rw [isWordPart_of_isBlank hb] at part
    cases part
  | mark h => exact List.forall_mem_singleton.mpr (isTrivia_punctuation h).2
  | invalid blank digit letter mark slash => exact List.forall_mem_singleton.mpr blank

/-- A text in front of which every word ends that ends in front of the other. As far as a word looks ahead the two are
the same, or a blank comes first. -/
structure Softens (rest other : List Char) : Prop where
  first : ∀ c after, other = c :: after → Text.isBlank c = true ∨ ∃ behind, rest = c :: behind
  point : ∀ c after, other = '.' :: c :: after → Text.isBlank c = true ∨ ∃ behind, rest = '.' :: c :: behind

section Softens
variable {rest other : List Char} {p : Char → Bool}

theorem EndsRun.of_softens (h : EndsRun p rest) (soft : Softens rest other)
    (blank : ∀ {c : Char}, Text.isBlank c = true → p c = false) : EndsRun p other := by
  intro c hc
  obtain ⟨after, split⟩ := List.head?_eq_some_iff.mp hc
  rcases soft.first c after split with hb | ⟨behind, rfl⟩
  · exact blank hb
  · exact h c rfl

theorem Piece.Precedes.of_softens {piece : Piece} (h : piece.Precedes rest) (significant : piece.kind.isTrivia = false)
    (soft : Softens rest other) : piece.Precedes other := by
  cases h with
  | comment within ends => cases significant
  | blank all ends => cases significant
  | whole digits ends pointless =>
    refine .whole digits (ends.of_softens soft isDigit_of_isBlank) fun e after same => ?_
    rcases soft.point e after same with hb | ⟨behind, hr⟩
    · exact isDigit_of_isBlank hb
    · exact pointless e behind hr
  | decimal digits decimals ends => exact .decimal digits decimals (ends.of_softens soft isDigit_of_isBlank)
  | word blank start parts ends => exact .word blank start parts (ends.of_softens soft isWordPart_of_isBlank)
  | mark h => exact .mark h
  | invalid blank digit letter mark slash =>
    refine .invalid blank digit letter mark fun slashes => ?_
    obtain ⟨after, split⟩ := List.head?_eq_some_iff.mp slashes.2
    rcases soft.first '/' after split with hb | ⟨behind, rfl⟩
    · exact absurd hb (by decide)
    · exact slash ⟨slashes.1, rfl⟩

end Softens

section Gap
variable {gap behind : List Char}

theorem Gap.of_head {other : List Char} (h : Gap gap behind)
    (same : (∀ c ∈ behind.head?, endsLine c = true) → ∀ c ∈ other.head?, endsLine c = true) : Gap gap other := by
  induction h with
  | nil => exact .nil other
  | blank hc _ ih => exact .blank hc (ih same)
  | @comment line gap behind within ends _ ih =>
    refine .comment within ?_ (ih same)
    cases gap with
    | nil => exact same ends
    | cons d gap => exact ends

/-- A gap in front of a word ends with that word, whatever stands behind the first character of it. -/
theorem Gap.of_start {c : Char} {cs other : List Char} (h : Gap gap (c :: cs)) (solid : Text.isBlank c = false) :
    Gap gap other := by
  refine h.of_head fun ends => ?_
  rw [isBlank_of_endsLine (ends c rfl)] at solid
  cases solid

theorem Gap.append {second : List Char} (h : Gap gap (second ++ behind)) (next : Gap second behind) :
    Gap (gap ++ second) behind := by
  generalize split : second ++ behind = whole at h
  induction h with
  | nil => exact next
  | blank hc _ ih => exact .blank hc (ih split)
  | comment within ends _ ih =>
    subst split
    rw [List.append_assoc]
    exact .comment within (by rwa [List.append_assoc]) (ih rfl)

theorem Laid.behind_gap {read rest : List Char} {words : List Token} (h : Laid (read ++ gap) rest words)
    (front : Gap gap rest) : Laid read (gap ++ rest) words := by
  cases h with
  | stop last =>
    rw [← List.append_nil rest] at front
    rw [List.append_assoc]
    exact .stop (front.append last)
  | word next significant precedes later =>
    rw [List.append_assoc read] at later ⊢
    rw [← List.append_assoc gap]
    exact .word (front.append next) significant precedes later

end Gap

end ArmScript
