set_option autoImplicit false

namespace ArmScript

structure Position where
  line : Nat
  column : Nat
  deriving DecidableEq, Repr

def Position.start : Position := ⟨1, 1⟩

def Position.clamped (line column : Nat) : Position := ⟨max 1 line, max 1 column⟩

def Position.text (p : Position) : String := s!"{p.line}:{p.column}"

instance : LE Position := ⟨fun p q => p.line < q.line ∨ p.line = q.line ∧ p.column ≤ q.column⟩

instance : LT Position := ⟨fun p q => p.line < q.line ∨ p.line = q.line ∧ p.column < q.column⟩

instance (p q : Position) : Decidable (p ≤ q) :=
  inferInstanceAs (Decidable (p.line < q.line ∨ p.line = q.line ∧ p.column ≤ q.column))

instance (p q : Position) : Decidable (p < q) :=
  inferInstanceAs (Decidable (p.line < q.line ∨ p.line = q.line ∧ p.column < q.column))

theorem Position.le_def {p q : Position} :
    p ≤ q ↔ p.line < q.line ∨ p.line = q.line ∧ p.column ≤ q.column := Iff.rfl

theorem Position.lt_def {p q : Position} :
    p < q ↔ p.line < q.line ∨ p.line = q.line ∧ p.column < q.column := Iff.rfl

def Position.sort (ps : List Position) : List Position := ps.mergeSort fun p q => decide (p ≤ q)

/-- The position behind a character, which depends on the next one: a carriage return that a line feed
follows belongs to the end of the line and takes no column. -/
def Position.step (p : Position) (c : Char) (next : Option Char) : Position :=
  if c = '\n' then ⟨p.line + 1, 1⟩
  else if c = '\r' ∧ next = some '\n' then p
  else ⟨p.line, p.column + 1⟩

/-- The position behind a stretch of text, which depends on the text that follows it. -/
def Position.walk (p : Position) (following : List Char) : List Char → Position
  | [] => p
  | c :: cs => (p.step c (cs.head?.or following.head?)).walk following cs

theorem Position.walk_append (p : Position) (following as bs : List Char) :
    p.walk following (as ++ bs) = (p.walk (bs ++ following) as).walk following bs := by
  induction as generalizing p with
  | nil => rfl
  | cons a as ih => simp only [List.cons_append, walk, ih, List.head?_append, Option.or_assoc]

end ArmScript
