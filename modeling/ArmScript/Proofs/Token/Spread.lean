import ArmScript.Proofs.Token.Gaps

set_option autoImplicit false

namespace ArmScript

/-- Spellings in order, with the next one of the gaps between each two. A space takes the place of a missing gap. -/
def spread : List String → List String → String
  | [], _ => ""
  | [lexeme], _ => lexeme
  | lexeme :: next :: others, gaps => lexeme ++ gaps.headD " " ++ spread (next :: others) gaps.tail

def IsBlankText (gap : String) : Prop := gap ≠ "" ∧ ∀ c ∈ gap.toList, Text.isBlank c = true

instance (gap : String) : Decidable (IsBlankText gap) :=
  decidable_of_iff (gap ≠ "" ∧ gap.toList.all Text.isBlank = true) (and_congr_right' List.all_eq_true)

def Token.spelling (t : Token) : TokenKind × String := (t.kind, t.lexeme)

theorem softens_of_blank {rest other : List Char} (blank : ∀ c ∈ other.head?, Text.isBlank c = true) :
    Softens rest other where
  first c after h := .inl (blank c (by rw [h]; rfl))
  point c after h := absurd (blank '.' (by rw [h]; rfl)) (by decide)

theorem isBlankText_headD {gaps : List String} (h : ∀ gap ∈ gaps, IsBlankText gap) : IsBlankText (gaps.headD " ") := by
  cases gaps with
  | nil => decide
  | cons gap gaps => exact h gap List.mem_cons_self

theorem exists_spread_cons {gaps : List String} (apart : ∀ gap ∈ gaps, IsBlankText gap) (lexeme : String)
    (others : List String) :
    ∃ gap, (spread (lexeme :: others) gaps).toList = lexeme.toList ++ (gap ++ (spread others gaps.tail).toList) ∧
      (∀ c ∈ gap, Text.isBlank c = true) ∧
      ∀ c ∈ (gap ++ (spread others gaps.tail).toList).head?, Text.isBlank c = true := by
  cases others with
  | nil => exact ⟨[], by simp [spread], by simp, by simp [spread]⟩
  | cons next others =>
    obtain ⟨nonempty, blank⟩ := isBlankText_headD apart
    refine ⟨(gaps.headD " ").toList, by simp [spread], blank, ?_⟩
    obtain ⟨d, ds, split⟩ := List.exists_cons_of_ne_nil (mt String.toList_eq_nil_iff.mp nonempty)
    rw [split] at blank ⊢
    rintro c ⟨⟩
    exact blank d List.mem_cons_self

theorem Laid.exists_spread {read rest : List Char} {words : List Token} (h : Laid read rest words) {gaps : List String}
    (apart : ∀ gap ∈ gaps, IsBlankText gap) (other : List Char) :
    ∃ left, Laid other (spread ((withoutEnd words).map Token.lexeme) gaps).toList left ∧
      left.map Token.spelling = words.map Token.spelling := by
  induction h generalizing gaps other with
  | stop h => exact ⟨_, .stop (.nil []), rfl⟩
  | @word read gap rest piece words before significant precedes later ih =>
    have kept : (withoutEnd (piece.token (read ++ gap) rest :: words)).map Token.lexeme =
        String.ofList piece.text :: (withoutEnd words).map Token.lexeme := by
      rw [precedes.withoutEnd_cons]
      rfl
    obtain ⟨between, text, blank, starts⟩ :=
      exists_spread_cons apart (String.ofList piece.text) ((withoutEnd words).map Token.lexeme)
    obtain ⟨left, laid, same⟩ := ih (fun gap hg => apart gap (List.mem_of_mem_tail hg)) (other ++ piece.text ++ between)
    rw [kept, text, String.toList_ofList]
    generalize (spread ((withoutEnd words).map Token.lexeme) gaps.tail).toList = behind at starts laid
    have front : Gap between behind := by
      have run := Gap.blanks blank (.nil behind)
      rwa [List.append_nil] at run
    have next : Laid (other ++ [] ++ piece.text) (between ++ behind) left := by
      rw [List.append_nil]
      exact laid.behind_gap front
    have soft : Softens rest (between ++ behind) := softens_of_blank starts
    refine ⟨_, .word (.nil _) significant (precedes.of_softens significant soft) next, ?_⟩
    rw [List.map_cons, List.map_cons, same]
    rfl

end ArmScript
