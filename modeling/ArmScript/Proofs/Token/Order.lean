import Mathlib.Order.Defs.PartialOrder
import ArmScript.Proofs.Token.Layout

set_option autoImplicit false

namespace ArmScript

instance : Preorder Position where
  le_refl p := .inr ⟨rfl, Nat.le_refl _⟩
  le_trans p q r := by simp only [Position.le_def]; omega
  lt_iff_le_not_ge p q := by simp only [Position.le_def, Position.lt_def]; omega

namespace Position
variable (p : Position) (following : List Char)

/-- Only a carriage return may take no place. -/
theorem lt_step {c : Char} (h : c ≠ '\r') (next : Option Char) : p < p.step c next := by
  unfold step
  split
  · exact .inl (Nat.lt_succ_self _)
  · rw [if_neg fun both => h both.1]
    exact .inr ⟨rfl, Nat.lt_succ_self _⟩

theorem le_step (c : Char) (next : Option Char) : p ≤ p.step c next := by
  by_cases h : c = '\r'
  · subst h
    unfold step
    rw [if_neg (by decide)]
    split
    · exact le_refl p
    · exact .inr ⟨rfl, Nat.le_succ _⟩
  · exact le_of_lt (p.lt_step h next)

theorem le_walk (cs : List Char) : p ≤ p.walk following cs := by
  induction cs generalizing p with
  | nil => exact le_refl p
  | cons c cs ih => exact le_trans (p.le_step c _) (ih _)

theorem lt_walk {c : Char} (h : Text.isBlank c = false) (cs : List Char) : p < p.walk following (c :: cs) := by
  have hc : c ≠ '\r' := by
    rintro rfl
    revert h
    decide
  exact lt_of_lt_of_le (p.lt_step hc _) (le_walk _ following cs)

end Position

theorem Piece.Precedes.position_lt {piece : Piece} {before rest : List Char} (h : piece.Precedes rest)
    (significant : piece.kind.isTrivia = false) :
    (piece.token before rest).position < Position.start.walk rest (before ++ piece.text) := by
  obtain ⟨c, cs, text, solid⟩ := h.exists_start significant
  rw [Position.walk_append]
  simp only [Piece.token, text]
  exact Position.lt_walk _ rest solid cs

theorem Position.walk_le_walk_append (read gap rest : List Char) :
    start.walk (gap ++ rest) read ≤ start.walk rest (read ++ gap) := by
  rw [walk_append]
  exact le_walk _ rest gap

theorem Laid.position_le {read rest : List Char} {words : List Token} (h : Laid read rest words) {word : Token}
    (hw : word ∈ words) : Position.start.walk rest read ≤ word.position := by
  rcases h.exists_piece hw with ⟨skipped, piece, behind, rfl, -, -, rfl⟩ | rfl
  · exact Position.walk_le_walk_append read skipped (piece.text ++ behind)
  · simpa [Token.endOf] using Position.walk_le_walk_append read rest []

theorem pairwise_position_tokenize (source : String) :
    (tokenize source).Pairwise fun a b => a.position < b.position :=
  (laid_tokenize source).pairwise fun significant precedes later _ hw =>
    lt_of_lt_of_le (precedes.position_lt significant) (later.position_le hw)

theorem Laid.getLast?_eq {read rest : List Char} {words : List Token} (h : Laid read rest words) :
    words.getLast? = some (.endOf (read ++ rest)) := by
  induction h with
  | stop h => rfl
  | word before significant precedes later ih => simp [List.getLast?_cons, ih]

end ArmScript
