import ArmScript.Text.Character
import ArmScript.Token.Kind

/-!
The first piece of a text: the longest word, number, comment or run of blanks that it starts with, or else a
single character. Every text that is not empty has one.
-/
set_option autoImplicit false

namespace ArmScript

structure Piece where
  kind : TokenKind
  text : List Char
  deriving DecidableEq, Repr

def endsLine (c : Char) : Bool := c == '\n' || c == '\r'

/-- What follows the first digit of a number. A point belongs to it only if a digit stands behind the point. -/
def numberTail (cs : List Char) : List Char :=
  cs.takeWhile Char.isDigit ++
    match cs.dropWhile Char.isDigit with
    | '.' :: d :: rest => if d.isDigit then '.' :: d :: rest.takeWhile Char.isDigit else []
    | _ => []

def wordKind (word : String) : TokenKind :=
  if word = "Robot" then .robot
  else match Method.ofName? word with
    | some m => .method m
    | none => .identifier

def punctuation? : Char → Option TokenKind
  | '.' => some .dot
  | '=' => some .equals
  | '(' => some .openParen
  | ')' => some .closeParen
  | '{' => some .openBrace
  | '}' => some .closeBrace
  | _ => none

/-- The piece that starts with the given character. A comment leaves the end of its line to the next piece. -/
def Piece.first (c : Char) (cs : List Char) : Piece :=
  if c = '/' ∧ cs.head? = some '/' then ⟨.comment, c :: cs.takeWhile fun d => !endsLine d⟩
  else if Text.isBlank c then ⟨.blank, c :: cs.takeWhile Text.isBlank⟩
  else if c.isDigit then ⟨.number, c :: numberTail cs⟩
  else if Text.isAlphabetic c then
    let word := c :: cs.takeWhile Text.isWordPart
    ⟨wordKind (String.ofList word), word⟩
  else match punctuation? c with
    | some kind => ⟨kind, [c]⟩
    | none => ⟨.invalid, [c]⟩

theorem exists_numberTail_append (cs : List Char) : ∃ rest, cs = numberTail cs ++ rest := by
  unfold numberTail
  split
  · next d rest h =>
    split
    · refine ⟨rest.dropWhile Char.isDigit, ?_⟩
      rw [List.append_assoc, List.cons_append, List.cons_append, List.takeWhile_append_dropWhile, ← h,
        List.takeWhile_append_dropWhile]
    · exact ⟨cs.dropWhile Char.isDigit, by simp⟩
  · exact ⟨cs.dropWhile Char.isDigit, by simp⟩

theorem Piece.exists_first_append (c : Char) (cs : List Char) :
    ∃ read rest, (Piece.first c cs).text = c :: read ∧ cs = read ++ rest := by
  have whole : ∀ p : Char → Bool, ∃ rest, cs = cs.takeWhile p ++ rest :=
    fun p => ⟨cs.dropWhile p, List.takeWhile_append_dropWhile.symm⟩
  unfold first
  split
  · obtain ⟨rest, h⟩ := whole fun d => !endsLine d
    exact ⟨_, rest, rfl, h⟩
  · split
    · obtain ⟨rest, h⟩ := whole Text.isBlank
      exact ⟨_, rest, rfl, h⟩
    · split
      · obtain ⟨rest, h⟩ := exists_numberTail_append cs
        exact ⟨_, rest, rfl, h⟩
      · split
        · obtain ⟨rest, h⟩ := whole Text.isWordPart
          exact ⟨_, rest, rfl, h⟩
        · split
          · exact ⟨[], cs, rfl, rfl⟩
          · exact ⟨[], cs, rfl, rfl⟩

end ArmScript
