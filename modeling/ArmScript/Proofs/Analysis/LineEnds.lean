import ArmScript.Proofs.Analysis.Spans
import ArmScript.Proofs.Token.Columns
import ArmScript.Proofs.Token.Gaps

set_option autoImplicit false

namespace ArmScript

/-- A text with a carriage return in front of each line feed, also where there is one already. -/
def addReturns (text : List Char) : List Char := text.flatMap fun c => if c = '\n' then ['\r', '\n'] else [c]

def withReturns (source : String) : String := String.ofList (addReturns source.toList)

example : withReturns "Robot r\n\r\n" = "Robot r\r\n\r\r\n" := by decide +kernel

section Text
variable {cs text : List Char} {c : Char}

@[simp] theorem addReturns_nil : addReturns [] = [] := rfl

theorem addReturns_append (as bs : List Char) : addReturns (as ++ bs) = addReturns as ++ addReturns bs :=
  List.flatMap_append

theorem addReturns_lineFeed : addReturns ('\n' :: cs) = '\r' :: '\n' :: addReturns cs := rfl

theorem addReturns_cons (h : c ≠ '\n') : addReturns (c :: cs) = c :: addReturns cs := by
  simp [addReturns, h]

theorem addReturns_eq_self (h : ∀ c ∈ text, c ≠ '\n') : addReturns text = text := by
  induction text with
  | nil => rfl
  | cons c cs ih =>
    obtain ⟨first, others⟩ := List.forall_mem_cons.mp h
    rw [addReturns_cons first, ih others]

theorem start_of_addReturns {after : List Char} (h : addReturns text = c :: after) :
    c = '\r' ∨ c ≠ '\n' ∧ ∃ behind, text = c :: behind ∧ addReturns behind = after := by
  cases text with
  | nil => cases h
  | cons d ds =>
    by_cases lineFeed : d = '\n'
    · subst lineFeed
      exact .inl (List.cons.inj h).1.symm
    · rw [addReturns_cons lineFeed] at h
      obtain ⟨rfl, rest⟩ := List.cons.inj h
      exact .inr ⟨lineFeed, ds, rfl, rest⟩

theorem head?_addReturns_ne (text : List Char) : (addReturns text).head? ≠ some '\n' := by
  intro h
  obtain ⟨after, split⟩ := List.head?_eq_some_iff.mp h
  rcases start_of_addReturns split with returned | ⟨other, -⟩
  · revert returned
    decide
  · exact other rfl

theorem softens_addReturns (rest : List Char) : Softens rest (addReturns rest) where
  first c after h := by
    rcases start_of_addReturns h with rfl | ⟨-, behind, same, -⟩
    · exact .inl (by decide)
    · exact .inr ⟨behind, same⟩
  point c after h := by
    rcases start_of_addReturns h with point | ⟨-, behind, rfl, next⟩
    · exact absurd point (by decide)
    · rcases start_of_addReturns next with rfl | ⟨-, after, rfl, -⟩
      · exact .inl (by decide)
      · exact .inr ⟨after, rfl⟩

theorem Gap.withReturns {gap behind : List Char} (h : Gap gap behind) : Gap (addReturns gap) (addReturns behind) := by
  induction h with
  | nil behind => exact .nil _
  | @blank c gap behind hc _ ih =>
    by_cases lineFeed : c = '\n'
    · subst lineFeed
      exact .blank (by decide) (.blank hc ih)
    · rw [addReturns_cons lineFeed]
      exact .blank hc ih
  | @comment line gap behind within ends _ ih =>
    have noFeed : ∀ c ∈ '/' :: '/' :: line, c ≠ '\n' := by
      rintro _ hc rfl
      simp only [List.mem_cons, Char.reduceEq, false_or] at hc
      exact absurd (within _ hc) (by decide)
    have line' := addReturns_eq_self noFeed
    rw [addReturns_append, line']
    refine .comment within (fun c hc => ?_) ih
    rw [← addReturns_append] at hc
    obtain ⟨after, split⟩ := List.head?_eq_some_iff.mp hc
    rcases start_of_addReturns split with rfl | ⟨-, rest, same, -⟩
    · decide
    · exact ends c (by rw [same]; rfl)

end Text

section Place

theorem count_addReturns (text : List Char) : (addReturns text).count '\n' = text.count '\n' := by
  induction text with
  | nil => rfl
  | cons c cs ih =>
    by_cases lineFeed : c = '\n'
    · subst lineFeed
      simp [addReturns_lineFeed, ih]
    · rw [addReturns_cons lineFeed, List.count_cons, List.count_cons, ih]

theorem lastLine_addReturns (text : List Char) : lastLine (addReturns text) = lastLine text := by
  induction text using List.reverseRecOn with
  | nil => rfl
  | append_singleton text c ih =>
    rw [addReturns_append]
    by_cases lineFeed : c = '\n'
    · subst lineFeed
      have ended : addReturns text ++ addReturns ['\n'] = (addReturns text ++ ['\r']) ++ ['\n'] := by
        simp [addReturns_lineFeed]
      rw [ended, lastLine_lineFeed, lastLine_lineFeed]
    · rw [addReturns_cons lineFeed, addReturns_nil, lastLine_concat lineFeed, lastLine_concat lineFeed, ih]

theorem Position.walk_addReturns {following : List Char} (ahead : following.head? ≠ some '\n') (read : List Char) :
    start.walk (addReturns following) (addReturns read) = start.walk following read := by
  have columns := columns_congr (iff_of_false (head?_addReturns_ne following) ahead) (lastLine read)
  rw [walk_start, walk_start, count_addReturns, lastLine_addReturns, columns]

end Place

theorem Laid.withReturns {read rest : List Char} {words : List Token} (h : Laid read rest words) :
    ∃ moved, Laid (addReturns read) (addReturns rest) moved ∧
      moved.map Token.unspanned = words.map Token.unspanned := by
  induction h with
  | @stop read gap h =>
    have nothing : ([] : List Char).head? ≠ some '\n' := by simp
    have place := Position.walk_addReturns nothing (read ++ gap)
    rw [addReturns_append, addReturns_nil] at place
    refine ⟨_, .stop h.withReturns, ?_⟩
    simp [Token.endOf, Token.unspanned, place]
  | @word read gap rest piece words h significant precedes later ih =>
    obtain ⟨moved, laid, same⟩ := ih
    have noFeed : ∀ c ∈ piece.text, c ≠ '\n' := by
      rintro _ hc rfl
      exact absurd (precedes.solid significant _ hc) (by decide)
    have text := addReturns_eq_self noFeed
    have ahead : (piece.text ++ rest).head? ≠ some '\n' := by
      obtain ⟨c, cs, start⟩ := precedes.exists_text
      rw [start]
      simpa using noFeed c (by simp [start])
    have place := Position.walk_addReturns ahead (read ++ gap)
    have front := h.withReturns
    rw [addReturns_append, text] at front
    rw [addReturns_append, addReturns_append, text] at laid place
    rw [addReturns_append, addReturns_append, text]
    refine ⟨_, .word front significant (precedes.of_softens significant (softens_addReturns rest)) laid, ?_⟩
    rw [List.map_cons, List.map_cons, same]
    simp only [Piece.token, Token.unspanned, place]

theorem tokenize_withReturns (source : String) :
    (tokenize (withReturns source)).map Token.unspanned = (tokenize source).map Token.unspanned := by
  obtain ⟨moved, laid, same⟩ := (laid_tokenize source).withReturns
  have text : (withReturns source).toList = addReturns source.toList := String.toList_ofList
  rw [addReturns_nil, ← text] at laid
  rw [tokenize_of_laid laid, same]

/-- Whatever line ends a script has, with a carriage return in front of each of its line feeds it has the same words
with the same spellings and in the same places, and the same problems and robots are found in it. Only byte offsets
differ. -/
theorem analyze_withReturns (source : String) :
    (tokenize (withReturns source)).map Token.unspanned = (tokenize source).map Token.unspanned ∧
      (analyze (withReturns source)).diagnostics.map Diagnostic.unspanned =
        (analyze source).diagnostics.map Diagnostic.unspanned ∧
      (analyze (withReturns source)).symbols.robots.map Robot.unspanned =
        (analyze source).symbols.robots.map Robot.unspanned :=
  ⟨tokenize_withReturns source, analyze_of_unspanned (tokenize_withReturns source)⟩

end ArmScript
