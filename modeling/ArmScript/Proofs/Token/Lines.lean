import ArmScript.Proofs.Token.Columns
import ArmScript.Proofs.Token.Gaps

set_option autoImplicit false

namespace ArmScript

/-- A word as it is behind a text of so many line feeds and bytes. Its column counts from the start of its own line. -/
def Token.below (lines bytes : Nat) (t : Token) : Token :=
  { t with
    position := ⟨t.position.line + lines, t.position.column⟩
    span := ⟨t.span.start + bytes, t.span.stop + bytes⟩ }

def WholeLines (text : List Char) : Prop := ∀ c ∈ text.getLast?, c = '\n'

theorem WholeLines.of_append {first second : List Char} (h : WholeLines (first ++ second)) : WholeLines second :=
  fun c hc => h c (by rw [List.getLast?_append, Option.mem_def.mp hc]; rfl)

theorem WholeLines.exists_concat {text : List Char} (h : WholeLines text) (nonempty : text ≠ []) :
    ∃ first, text = first ++ ['\n'] := by
  have last := List.dropLast_append_getLast nonempty
  rw [h _ (List.getLast?_eq_some_getLast nonempty)] at last
  exact ⟨_, last.symm⟩

section Shift
variable {front : List Char} (whole : WholeLines front)
include whole

theorem WholeLines.lastLine_append (text : List Char) : lastLine (front ++ text) = lastLine text := by
  induction text using List.reverseRecOn with
  | nil =>
    rw [List.append_nil]
    cases front with
    | nil => rfl
    | cons c cs =>
      obtain ⟨first, split⟩ := whole.exists_concat (by simp)
      rw [split]
      exact lastLine_lineFeed first
  | append_singleton text c ih =>
    rw [← List.append_assoc]
    by_cases lineFeed : c = '\n'
    · subst lineFeed
      rw [lastLine_lineFeed, lastLine_lineFeed]
    · rw [lastLine_concat lineFeed, lastLine_concat lineFeed, ih]

theorem WholeLines.walk_append (following text : List Char) :
    Position.start.walk following (front ++ text) =
      ⟨(Position.start.walk following text).line + front.count '\n', (Position.start.walk following text).column⟩ := by
  simp only [Position.walk_start, whole.lastLine_append, List.count_append, Position.mk.injEq, and_true]
  omega

theorem WholeLines.token_append (piece : Piece) (before behind : List Char) :
    piece.token (front ++ before) behind = (piece.token before behind).below (front.count '\n') (byteLength front) := by
  simp only [Piece.token, Token.below, whole.walk_append, byteLength_append, Token.mk.injEq, Span.mk.injEq, true_and]
  omega

theorem Laid.behindLines {read rest : List Char} {words : List Token} (h : Laid read rest words) :
    Laid (front ++ read) rest (words.map (Token.below (front.count '\n') (byteLength front))) := by
  induction h with
  | @stop read gap h =>
    have last : Token.endOf (front ++ (read ++ gap)) =
        (Token.endOf (read ++ gap)).below (front.count '\n') (byteLength front) := by
      simp only [Token.endOf, Token.below, whole.walk_append, byteLength_append, Nat.add_comm]
    have moved : Laid (front ++ read) gap [.endOf (front ++ read ++ gap)] := .stop h
    rwa [List.append_assoc, last] at moved
  | @word read gap rest piece words before significant precedes later ih =>
    rw [← List.append_assoc, ← List.append_assoc] at ih
    have moved := Laid.word before significant precedes ih
    rwa [List.append_assoc front, whole.token_append] at moved

end Shift

/-- A comment ends inside whole lines, so behind them it does not matter what comes. -/
theorem Gap.of_wholeLines {gap behind : List Char} (h : Gap gap behind) (whole : WholeLines gap) (other : List Char) :
    Gap gap other := by
  induction h with
  | nil => exact .nil other
  | @blank c gap behind hc _ ih =>
    have rest : WholeLines ([c] ++ gap) := whole
    exact .blank hc (ih rest.of_append)
  | @comment line gap behind within ends _ ih =>
    refine .comment within ?_ (ih whole.of_append)
    cases gap with
    | nil =>
      obtain ⟨first, split⟩ := whole.exists_concat (by simp)
      have last : '\n' ∈ '/' :: '/' :: line := by
        rw [← List.append_nil ('/' :: '/' :: line), split]
        simp
      simp only [List.mem_cons, Char.reduceEq, false_or] at last
      exact absurd (within '\n' last) (by decide)
    | cons c gap => exact ends

theorem softens_append (first second : List Char) : Softens (first ++ ['\n']) (first ++ ['\n'] ++ second) where
  first c after h := by
    cases first with
    | nil =>
      cases h
      exact .inl (by decide)
    | cons d first =>
      cases h
      exact .inr ⟨_, rfl⟩
  point c after h := by
    cases first with
    | nil => cases h
    | cons d first =>
      cases first with
      | nil =>
        cases h
        exact .inl (by decide)
      | cons e first =>
        cases h
        exact .inr ⟨_, rfl⟩

theorem Piece.Precedes.token_congr {piece : Piece} {rest : List Char} (h : piece.Precedes rest)
    (before other : List Char) : piece.token before other = piece.token before rest := by
  obtain ⟨c, cs, text⟩ := h.exists_text
  have ahead : (c :: cs ++ other).head? = some '\n' ↔ (c :: cs ++ rest).head? = some '\n' := Iff.rfl
  simp only [token, text, Position.walk_start, columns_congr ahead]

theorem Laid.append {read rest second : List Char} {words later : List Token} (h : Laid read rest words)
    (whole : WholeLines rest) (hl : Laid (read ++ rest) second later) :
    Laid read (rest ++ second) (withoutEnd words ++ later) := by
  induction h with
  | @stop read gap h => exact hl.behind_gap (h.of_wholeLines whole second)
  | @word read gap rest piece words before significant precedes _ ih =>
    have wholeRest : WholeLines rest := whole.of_append.of_append
    -- a word is not blank, so a line feed stands behind it
    have nonempty : rest ≠ [] := by
      rintro rfl
      obtain ⟨c, cs, text, -⟩ := precedes.exists_start significant
      rw [List.append_nil] at whole
      obtain ⟨first, split⟩ := whole.of_append.exists_concat (by simp [text])
      exact absurd (precedes.solid significant '\n' (by simp [split])) (by decide)
    obtain ⟨first, split⟩ := wholeRest.exists_concat nonempty
    have kept : withoutEnd (piece.token (read ++ gap) rest :: words) =
        piece.token (read ++ gap) (rest ++ second) :: withoutEnd words := by
      rw [precedes.withoutEnd_cons, precedes.token_congr (read ++ gap) (rest ++ second)]
    have front : Gap gap (piece.text ++ (rest ++ second)) := by
      obtain ⟨c, cs, text, solid⟩ := precedes.exists_start significant
      rw [text] at before ⊢
      exact before.of_start solid
    have soft : Softens rest (rest ++ second) := split ▸ softens_append first second
    rw [kept, List.append_assoc gap, List.append_assoc piece.text]
    refine .word front significant (precedes.of_softens significant soft) (ih wholeRest ?_)
    rwa [← List.append_assoc, ← List.append_assoc] at hl

/-- Behind whole lines a text has the words that it has alone, each so many lines further down and so many bytes further
on, and in front of these come the words of the lines. Where the lines alone would end there is nothing. -/
theorem tokenize_append {lines : String} (whole : lines = "" ∨ ∃ first, lines = first ++ "\n") (rest : String) :
    tokenize (lines ++ rest) =
      withoutEnd (tokenize lines) ++
        (tokenize rest).map (Token.below (lines.toList.count '\n') lines.utf8ByteSize) := by
  have ends : WholeLines lines.toList := by
    rcases whole with rfl | ⟨first, rfl⟩
    · intro c hc
      cases hc
    · intro c hc
      simpa using hc.symm
  have later := (laid_tokenize rest).behindLines ends
  rw [byteLength_toList, List.append_nil] at later
  have both := (laid_tokenize lines).append ends later
  rw [← String.toList_append] at both
  exact tokenize_of_laid both

/-- A comment and a lone carriage return before the seam, blanks around it. -/
theorem tokenize_append_comment :
    ("r ñ // x.\r \r\n" = "" ∨ ∃ first, "r ñ // x.\r \r\n" = first ++ "\n") ∧
      tokenize ("r ñ // x.\r \r\n" ++ "\n .5 //") =
        withoutEnd (tokenize "r ñ // x.\r \r\n") ++ (tokenize "\n .5 //").map (Token.below 1 14) := by
  have whole : "r ñ // x.\r \r\n" = "" ∨ ∃ first, "r ñ // x.\r \r\n" = first ++ "\n" :=
    .inr ⟨"r ñ // x.\r \r", by decide⟩
  have feeds : "r ñ // x.\r \r\n".toList.count '\n' = 1 := by decide
  have bytes : "r ñ // x.\r \r\n".utf8ByteSize = 14 := by decide
  have both := tokenize_append whole "\n .5 //"
  rw [feeds, bytes] at both
  exact ⟨whole, both⟩

end ArmScript
