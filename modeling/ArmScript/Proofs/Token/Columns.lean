import Mathlib.Data.List.DropRight
import ArmScript.Proofs.Token.Order

set_option autoImplicit false

namespace ArmScript

def lastLine (text : List Char) : List Char := text.rtakeWhile fun c => c != '\n'

/-- How many characters of a text take a column. A carriage return takes none if a line feed comes next, be it the
first character of what follows the text. -/
def columns (following : List Char) : List Char → Nat
  | [] => 0
  | c :: cs => (if c = '\r' ∧ (cs ++ following).head? = some '\n' then 0 else 1) + columns following cs

theorem columns_append (following as bs : List Char) :
    columns following (as ++ bs) = columns (bs ++ following) as + columns following bs := by
  induction as with
  | nil => simp [columns]
  | cons a as ih => simp only [List.cons_append, columns, ih, List.append_assoc, Nat.add_assoc]

/-- Of what follows a text it only counts whether that is a line feed. -/
theorem columns_congr {following other : List Char} (ahead : following.head? = some '\n' ↔ other.head? = some '\n')
    (text : List Char) : columns following text = columns other text := by
  induction text with
  | nil => rfl
  | cons c cs ih =>
    have next : (cs ++ following).head? = some '\n' ↔ (cs ++ other).head? = some '\n' := by
      cases cs with
      | nil => exact ahead
      | cons d ds => exact Iff.rfl
    simp only [columns, ih, next]

theorem columns_le_length (following text : List Char) : columns following text ≤ text.length := by
  induction text with
  | nil => exact Nat.le_refl 0
  | cons c cs ih =>
    simp only [columns, List.length_cons]
    split <;> omega

theorem lastLine_lineFeed (text : List Char) : lastLine (text ++ ['\n']) = [] :=
  List.rtakeWhile_concat_neg _ _ _ (by decide)

theorem lastLine_concat {c : Char} (h : c ≠ '\n') (text : List Char) : lastLine (text ++ [c]) = lastLine text ++ [c] :=
  List.rtakeWhile_concat_pos _ _ _ (by simpa using h)

theorem Position.walk_start (following text : List Char) :
    start.walk following text = ⟨1 + text.count '\n', 1 + columns following (lastLine text)⟩ := by
  -- a walk looks one character ahead, so the last character is the one to part from the others
  induction text using List.reverseRecOn generalizing following with
  | nil => rfl
  | append_singleton text c ih =>
    rw [walk_append, ih]
    by_cases lineFeed : c = '\n'
    · subst lineFeed
      simp [walk, step, lastLine_lineFeed, columns, Nat.add_assoc]
    · have ahead : columns following [c] = if c = '\r' ∧ following.head? = some '\n' then 0 else 1 := rfl
      rw [lastLine_concat lineFeed, columns_append, ahead]
      by_cases silent : c = '\r' ∧ following.head? = some '\n'
      · simp [walk, step, silent]
      · simp [walk, step, lineFeed, silent, Nat.add_assoc]

theorem Position.walk_start_le (following text : List Char) :
    (start.walk following text).line ≤ text.length + 1 ∧ (start.walk following text).column ≤ text.length + 1 := by
  rw [walk_start]
  have lines : text.count '\n' ≤ text.length := List.count_le_length
  have last : (lastLine text).length ≤ text.length := (List.rtakeWhile_suffix _ text).length_le
  have columns := columns_le_length following (lastLine text)
  exact ⟨by dsimp only; omega, by dsimp only; omega⟩

/-- The place of a word is told by the text before it: the line by the line feeds in it, and the column by the
characters behind the last of them. No two words share a place, and while a text of fewer than `2 ^ 32 - 1` characters
is read neither counter ever leaves the numbers of 32 bits. -/
theorem positions_of_tokenize {source : String} (short : source.length < UInt32.size - 1) :
    (∀ word ∈ tokenize source, ∃ before behind, source.toList = before ++ (word.lexeme.toList ++ behind) ∧
        word.span.start = byteLength before ∧
        word.position.line = 1 + before.count '\n' ∧
        word.position.column = 1 + columns (word.lexeme.toList ++ behind) (lastLine before) ∧
        1 ≤ word.position.line ∧ 1 ≤ word.position.column) ∧
      (tokenize source).Pairwise (fun a b => a.position < b.position) ∧
      ((tokenize source).map Token.position).Nodup ∧
      ∀ before behind, source.toList = before ++ behind →
        (Position.start.walk behind before).line < UInt32.size ∧
          (Position.start.walk behind before).column < UInt32.size := by
  have ordered := pairwise_position_tokenize source
  refine ⟨fun word hw => ?_, ordered, ?_, fun before behind split => ?_⟩
  · have placed : ∃ before behind, source.toList = before ++ (word.lexeme.toList ++ behind) ∧
        word.span.start = byteLength before ∧
        word.position = Position.start.walk (word.lexeme.toList ++ behind) before := by
      rcases (laid_tokenize source).exists_piece hw with ⟨before, piece, behind, split, -, -, rfl⟩ | rfl
      · exact ⟨before, behind, by simpa [Piece.token] using split, rfl, by simp [Piece.token]⟩
      · exact ⟨source.toList, [], by simp [Token.endOf], rfl, rfl⟩
    obtain ⟨before, behind, split, start, place⟩ := placed
    rw [Position.walk_start] at place
    refine ⟨before, behind, split, start, ?_⟩
    rw [place]
    exact ⟨rfl, rfl, Nat.le_add_right 1 _, Nat.le_add_right 1 _⟩
  · exact List.pairwise_map.mpr (ordered.imp fun less => ne_of_lt less)
  · have part : before.length ≤ source.length := by
      rw [← String.length_toList, split, List.length_append]
      exact Nat.le_add_right _ _
    obtain ⟨line, column⟩ := Position.walk_start_le behind before
    omega

/-- A name behind a comment and two carriage returns, of which the second stands alone and takes a column. -/
theorem positions_behind_returns :
    "Robot r // ñ\r\n\rr.base".length < UInt32.size - 1 ∧
      (⟨"r", .identifier, ⟨2, 2⟩, ⟨16, 17⟩⟩ : Token) ∈ tokenize "Robot r // ñ\r\n\rr.base" ∧
      ∃ before behind, "Robot r // ñ\r\n\rr.base".toList = before ++ ("r".toList ++ behind) ∧
        16 = byteLength before ∧ 2 = 1 + before.count '\n' ∧
        2 = 1 + columns ("r".toList ++ behind) (lastLine before) := by
  have short : "Robot r // ñ\r\n\rr.base".length < UInt32.size - 1 := by decide
  have word : (⟨"r", .identifier, ⟨2, 2⟩, ⟨16, 17⟩⟩ : Token) ∈ tokenize "Robot r // ñ\r\n\rr.base" := by decide +kernel
  obtain ⟨before, behind, split, start, line, column, -⟩ := (positions_of_tokenize short).1 _ word
  exact ⟨short, word, before, behind, split, start, line, column⟩

end ArmScript
