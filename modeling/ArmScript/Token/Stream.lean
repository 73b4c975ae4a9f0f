import ArmScript.Source.Cursor
import ArmScript.Token.Basic
import ArmScript.Token.Piece

/-!
The words of a script, read one at a time. A stream gives every word that is neither comment nor blank, then
the end of the input once, then nothing.
-/
set_option autoImplicit false

namespace ArmScript

theorem Cursor.advanceTo_first (c : Cursor) {d : Char} {ds : List Char} (h : c.rest = d :: ds) :
    (c.advanceTo (c.offset + byteLength (Piece.first d ds).text)).rest.length < c.rest.length := by
  obtain ⟨read, rest, ht, hs⟩ := Piece.exists_first_append d ds
  rw [ht, c.advanceTo_read (d :: read) rest (by simp [h, hs]), h, hs]
  simp only [List.length_cons, List.length_append]
  omega

/-- The first word at or behind a place, and the place behind the word. At the end of the text this is the
empty word that marks the end. -/
def Cursor.scan (c : Cursor) : Token × Cursor :=
  match _h : c.rest with
  | [] => (⟨"", .endOfInput, c.position, ⟨c.offset, c.offset⟩⟩, c)
  | d :: ds =>
    let piece := Piece.first d ds
    let stop := c.offset + byteLength piece.text
    if piece.kind.isTrivia then (c.advanceTo stop).scan
    else (⟨String.ofList piece.text, piece.kind, c.position, ⟨c.offset, stop⟩⟩, c.advanceTo stop)
termination_by c.rest.length
decreasing_by exact c.advanceTo_first ‹_›

structure TokenStream where
  cursor : Cursor
  finished : Bool
  deriving DecidableEq, Repr

def TokenStream.ofText (source : String) : TokenStream := ⟨.start source.toList, false⟩

def TokenStream.next (s : TokenStream) : Option (Token × TokenStream) :=
  if s.finished then none
  else
    let (token, cursor) := s.cursor.scan
    some (token, ⟨cursor, token.kind == .endOfInput⟩)

theorem punctuation?_ne_endOfInput {c : Char} : punctuation? c ≠ some .endOfInput := by
  unfold punctuation?; split <;> simp

theorem wordKind_ne_endOfInput {word : String} : wordKind word ≠ .endOfInput := by
  unfold wordKind; split
  · simp
  · split <;> simp

theorem Cursor.scan_shorter (c : Cursor) (h : c.scan.1.kind ≠ .endOfInput) :
    c.scan.2.rest.length < c.rest.length := by
  fun_induction Cursor.scan c with
  | case1 c hr => simp at h
  | case2 c d ds hr piece stop ht ih => exact Nat.lt_trans (ih h) (c.advanceTo_first hr)
  | case3 c d ds hr piece stop ht => exact c.advanceTo_first hr

def TokenStream.size (s : TokenStream) : Nat := if s.finished then 0 else s.cursor.rest.length + 1

theorem TokenStream.next_smaller {s t : TokenStream} {token : Token} (h : s.next = some (token, t)) :
    t.size < s.size := by
  unfold next at h
  split at h
  · simp at h
  · next hf =>
    simp only [Option.some.injEq, Prod.mk.injEq] at h
    obtain ⟨rfl, rfl⟩ := h
    simp only [size, hf]
    by_cases he : s.cursor.scan.1.kind = .endOfInput
    · simp [he]
    · have := s.cursor.scan_shorter he
      simp [he]; omega

def TokenStream.toList (s : TokenStream) : List Token :=
  match _h : s.next with
  | none => []
  | some (token, t) => token :: t.toList
termination_by s.size
decreasing_by exact next_smaller ‹_›

def tokenize (source : String) : List Token := (TokenStream.ofText source).toList

end ArmScript
