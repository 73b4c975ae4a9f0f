import ArmScript.Source.Position

set_option autoImplicit false

namespace ArmScript

def byteLength : List Char → Nat
  | [] => 0
  | c :: cs => c.utf8Size + byteLength cs

@[simp] theorem byteLength_nil : byteLength [] = 0 := rfl

@[simp] theorem byteLength_cons (c : Char) (cs : List Char) :
    byteLength (c :: cs) = c.utf8Size + byteLength cs := rfl

@[simp] theorem byteLength_append (as bs : List Char) :
    byteLength (as ++ bs) = byteLength as + byteLength bs := by
  induction as with
  | nil => simp
  | cons c as ih => simp [ih, Nat.add_assoc]

theorem byteLength_toList (s : String) : byteLength s.toList = s.utf8ByteSize := by
  suffices h : ∀ cs : List Char, (String.ofList cs).utf8ByteSize = byteLength cs by
    rw [← h, String.ofList_toList]
  intro cs
  induction cs with
  | nil => rfl
  | cons c cs ih =>
    have split : String.ofList (c :: cs) = String.singleton c ++ String.ofList cs := by
      rw [String.singleton_eq_ofList, ← String.ofList_append]; rfl
    rw [split, String.utf8ByteSize_append, String.utf8ByteSize_singleton, ih, byteLength_cons]

theorem isValid_byteLength {source : String} {before behind : List Char} (h : source.toList = before ++ behind) :
    (String.Pos.Raw.mk (byteLength before)).IsValid source := by
  refine String.Pos.Raw.isValid_iff_exists_append.mpr ⟨String.ofList before, String.ofList behind, ?_, ?_⟩
  · rw [← String.ofList_append, ← h, String.ofList_toList]
  · rw [String.rawEndPos, ← byteLength_toList, String.toList_ofList]

theorem exists_split_of_isValid {source : String} {offset : Nat} (h : (String.Pos.Raw.mk offset).IsValid source) :
    ∃ before behind, source.toList = before ++ behind ∧ offset = byteLength before := by
  obtain ⟨before, behind, parts, size⟩ := String.Pos.Raw.isValid_iff_exists_append.mp h
  refine ⟨before.toList, behind.toList, by rw [parts, String.toList_append], ?_⟩
  rw [byteLength_toList]
  exact congrArg String.Pos.Raw.byteIdx size

/-- Parts the characters that take up exactly `n` bytes from the rest. -/
def splitBytes? (n : Nat) : List Char → Option (List Char × List Char)
  | [] => if n = 0 then some ([], []) else none
  | c :: cs =>
    if n = 0 then some ([], c :: cs)
    else if c.utf8Size ≤ n then (splitBytes? (n - c.utf8Size) cs).map fun (read, rest) => (c :: read, rest)
    else none

theorem splitBytes?_byteLength (read rest : List Char) :
    splitBytes? (byteLength read) (read ++ rest) = some (read, rest) := by
  induction read with
  | nil => cases rest <;> simp [splitBytes?]
  | cons c cs ih =>
    have hc := c.utf8Size_pos
    have hn : ¬ c.utf8Size + byteLength cs = 0 := by omega
    have hs : c.utf8Size + byteLength cs - c.utf8Size = byteLength cs := by omega
    simp only [byteLength_cons, List.cons_append, splitBytes?]
    rw [if_neg hn, if_pos (by omega), hs, ih]
    rfl

theorem splitBytes?_sound {n : Nat} {cs read rest : List Char}
    (h : splitBytes? n cs = some (read, rest)) : cs = read ++ rest ∧ n = byteLength read := by
  induction cs generalizing n read with
  | nil =>
    simp only [splitBytes?] at h
    split at h <;> simp_all
  | cons c cs ih =>
    simp only [splitBytes?] at h
    split at h
    · simp_all
    · split at h
      · obtain ⟨⟨r, s⟩, hr, he⟩ := Option.map_eq_some_iff.mp h
        simp only [Prod.mk.injEq] at he
        obtain ⟨rfl, rfl⟩ := he
        obtain ⟨rfl, hb⟩ := ih hr
        simp only [List.cons_append, byteLength_cons, true_and]
        omega
      · simp at h

/-- A place in a text: the text behind it, the bytes before it, and its line and column. -/
structure Cursor where
  rest : List Char
  offset : Nat
  position : Position
  deriving DecidableEq, Repr

def Cursor.start (text : List Char) : Cursor := ⟨text, 0, .start⟩

/-- Moves forward to a byte offset. An offset before the place, behind the end of the text or inside a
character moves nothing. -/
def Cursor.advanceTo (c : Cursor) (stop : Nat) : Cursor :=
  if stop < c.offset then c
  else match splitBytes? (stop - c.offset) c.rest with
    | some (read, rest) => ⟨rest, stop, c.position.walk rest read⟩
    | none => c

theorem Cursor.advanceTo_read (c : Cursor) (read rest : List Char) (h : c.rest = read ++ rest) :
    c.advanceTo (c.offset + byteLength read) =
      ⟨rest, c.offset + byteLength read, c.position.walk rest read⟩ := by
  unfold advanceTo
  rw [if_neg (by omega), Nat.add_sub_cancel_left, h, splitBytes?_byteLength]

end ArmScript
