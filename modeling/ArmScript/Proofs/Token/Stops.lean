import ArmScript.Proofs.Token.Columns

/-!
Places that are sent from offset to offset, and also back, behind the end of the text or into the middle of a character.
A place goes on where it can and else stays as it is, so all that counts is how far it got: line and column are those of
one pass over the text before it, wherever the stops on the way were.
-/
set_option autoImplicit false

namespace ArmScript

/-- The position behind a character, unless one of its counters needs more than 32 bits. -/
def Position.step? (p : Position) (c : Char) (next : Option Char) : Option Position :=
  let behind := p.step c next
  if behind.line < UInt32.size ∧ behind.column < UInt32.size then some behind else none

def Position.walk? (p : Position) (following : List Char) : List Char → Option Position
  | [] => some p
  | c :: cs => do
    let behind ← p.step? c (cs.head?.or following.head?)
    behind.walk? following cs

/-- Moves forward as `advanceTo` does. There is no place behind a counter that runs over. -/
def Cursor.advanceTo? (c : Cursor) (stop : Nat) : Option Cursor :=
  if stop < c.offset then some c
  else match splitBytes? (stop - c.offset) c.rest with
    | some (read, rest) => (c.position.walk? rest read).map fun p => ⟨rest, stop, p⟩
    | none => some c

theorem exists_behind_of_isValid {source : String} {before behind : List Char}
    (split : source.toList = before ++ behind) {stop : Nat} (valid : (String.Pos.Raw.mk stop).IsValid source)
    (ahead : byteLength before ≤ stop) :
    ∃ text rest, behind = text ++ rest ∧ stop = byteLength before + byteLength text := by
  obtain ⟨first, second, parts, size⟩ := exists_split_of_isValid valid
  rw [split] at parts
  rcases List.append_eq_append_iff.mp parts with ⟨text, longer, rest⟩ | ⟨text, shorter, -⟩
  · exact ⟨text, second, rest, by rw [size, longer, byteLength_append]⟩
  · have same : byteLength before = byteLength first + byteLength text := by rw [shorter, byteLength_append]
    exact ⟨[], behind, rfl, by simp only [byteLength_nil]; omega⟩

theorem Position.walk_concat (p : Position) (following text : List Char) (c : Char) :
    p.walk following (text ++ [c]) = (p.walk (c :: following) text).step c following.head? := by
  rw [walk_append]
  rfl

theorem Position.walk?_between {source : String} (short : source.length < UInt32.size - 1)
    {before text rest : List Char} (split : source.toList = before ++ (text ++ rest)) :
    (start.walk (text ++ rest) before).walk? rest text = some ((start.walk (text ++ rest) before).walk rest text) := by
  induction text generalizing before with
  | nil => rfl
  | cons c cs ih =>
    have behind : (start.walk (c :: cs ++ rest) before).step c (cs.head?.or rest.head?) =
        start.walk (cs ++ rest) (before ++ [c]) := by
      rw [walk_concat, List.head?_append]
      rfl
    have split : source.toList = before ++ [c] ++ (cs ++ rest) := by simpa using split
    have part : (before ++ [c]).length ≤ source.length := by
      rw [← String.length_toList, split]
      exact (List.prefix_append (before ++ [c]) (cs ++ rest)).length_le
    obtain ⟨line, column⟩ := walk_start_le (cs ++ rest) (before ++ [c])
    have fits : (start.walk (c :: cs ++ rest) before).step? c (cs.head?.or rest.head?) =
        some (start.walk (cs ++ rest) (before ++ [c])) := by
      rw [step?, behind]
      exact if_pos ⟨by omega, by omega⟩
    rw [walk?, fits, walk, behind]
    exact ih split

example : Position.step? ⟨1, UInt32.size - 1⟩ '\r' none = none := by decide

namespace Cursor

def IsIgnored (source : String) (offset stop : Nat) : Prop :=
  stop < offset ∨ source.utf8ByteSize < stop ∨ ¬ (String.Pos.Raw.mk stop).IsValid source

instance (source : String) (offset stop : Nat) : Decidable (IsIgnored source offset stop) :=
  inferInstanceAs (Decidable (stop < offset ∨ source.utf8ByteSize < stop ∨ ¬ (String.Pos.Raw.mk stop).IsValid source))

/-- The stops that are not ignored, each at the offset of the one before. -/
def accepted (source : String) : Nat → List Nat → List Nat
  | _, [] => []
  | offset, stop :: stops =>
    if IsIgnored source offset stop then accepted source offset stops else stop :: accepted source stop stops

/-- A place between two parts of a text, with the position that one pass over the first part counts. -/
inductive OnePass (source : String) : Cursor → Prop where
  | between {before behind : List Char} (split : source.toList = before ++ behind) :
      OnePass source (.between before behind)

theorem not_isIgnored_iff {source : String} {offset stop : Nat} :
    ¬ IsIgnored source offset stop ↔ offset ≤ stop ∧ (String.Pos.Raw.mk stop).IsValid source := by
  rw [IsIgnored, not_or, not_or, Nat.not_lt, Nat.not_lt, not_not]
  exact and_congr_right fun _ => and_iff_right_of_imp fun valid => valid.le_rawEndPos

variable {source : String} {c : Cursor}

theorem onePass_start (source : String) : OnePass source (start source.toList) := .between (List.nil_append _).symm

theorem OnePass.eq_of_offset {d : Cursor} (hc : OnePass source c) (hd : OnePass source d) (same : c.offset = d.offset) :
    c = d := by
  cases hc with
  | @between before behind split =>
    cases hd with
    | @between before' behind' split' =>
      have same : byteLength before = byteLength before' := same
      have parted := splitBytes?_byteLength before behind
      rw [same, ← split, split', splitBytes?_byteLength] at parted
      obtain ⟨rfl, rfl⟩ := Prod.mk.inj (Option.some.inj parted)
      rfl

section Run
variable (h : OnePass source c)
include h

theorem OnePass.advanceTo_ignored {stop : Nat} (ignored : IsIgnored source c.offset stop) : c.advanceTo stop = c := by
  cases h with
  | @between before behind split =>
    by_cases back : stop < byteLength before
    · exact if_pos back
    · cases found : splitBytes? (stop - byteLength before) behind with
      | none => simp only [Cursor.advanceTo, Cursor.between, if_neg back, found]
      | some parts =>
        -- there is something to read up to the stop, which is then between two characters
        obtain ⟨text, rest⟩ := parts
        obtain ⟨rfl, size⟩ := splitBytes?_sound found
        have split : source.toList = before ++ text ++ rest := by rw [split, List.append_assoc]
        have valid := isValid_byteLength split
        have there : byteLength (before ++ text) = stop := by rw [byteLength_append]; omega
        rw [there] at valid
        exact absurd ignored (not_isIgnored_iff.mpr ⟨Nat.le_of_not_lt back, valid⟩)

theorem OnePass.advanceTo_accepted {stop : Nat} (taken : ¬ IsIgnored source c.offset stop) :
    (c.advanceTo stop).offset = stop ∧ OnePass source (c.advanceTo stop) := by
  cases h with
  | @between before behind split =>
    obtain ⟨ahead, valid⟩ := not_isIgnored_iff.mp taken
    obtain ⟨text, rest, rfl, rfl⟩ := exists_behind_of_isValid split valid ahead
    rw [advanceTo_between]
    exact ⟨byteLength_append before text, .between (by rw [split, List.append_assoc])⟩

theorem OnePass.advanceTo (stop : Nat) : OnePass source (c.advanceTo stop) := by
  by_cases ignored : IsIgnored source c.offset stop
  · rwa [h.advanceTo_ignored ignored]
  · exact (h.advanceTo_accepted ignored).2

theorem OnePass.exists_before :
    ∃ before, source.toList = before ++ c.rest ∧ c.offset = byteLength before ∧
      c.position = ⟨1 + before.count '\n', 1 + columns c.rest (lastLine before)⟩ := by
  cases h with
  | @between before behind split => exact ⟨before, split, rfl, Position.walk_start behind before⟩

theorem OnePass.not_isIgnored_offset : ¬ IsIgnored source c.offset c.offset := by
  cases h with
  | between split => exact not_isIgnored_iff.mpr ⟨Nat.le_refl _, isValid_byteLength split⟩

theorem OnePass.advanceTo?_eq_some (short : source.length < UInt32.size - 1) (stop : Nat) :
    c.advanceTo? stop = some (c.advanceTo stop) := by
  cases h with
  | @between before behind split =>
    rw [advanceTo?, Cursor.advanceTo]
    split
    · rfl
    · cases found : splitBytes? (stop - (Cursor.between before behind).offset) (Cursor.between before behind).rest with
      | none => rfl
      | some parts =>
        obtain ⟨text, rest⟩ := parts
        obtain ⟨parts, -⟩ := splitBytes?_sound found
        have parts : behind = text ++ rest := parts
        subst parts
        have counted := Position.walk?_between short split
        simp only [Cursor.between, counted, Option.map_some]

theorem OnePass.foldl_advanceTo (stops : List Nat) :
    OnePass source (stops.foldl Cursor.advanceTo c) ∧
      (stops.foldl Cursor.advanceTo c).offset = (accepted source c.offset stops).foldl max c.offset := by
  induction stops generalizing c with
  | nil => exact ⟨h, rfl⟩
  | cons stop stops ih =>
    by_cases ignored : IsIgnored source c.offset stop
    · rw [List.foldl_cons, h.advanceTo_ignored ignored, accepted, if_pos ignored]
      exact ih h
    · obtain ⟨there, next⟩ := h.advanceTo_accepted ignored
      obtain ⟨onePass, offset⟩ := ih next
      have forward : max c.offset stop = stop := Nat.max_eq_right (not_isIgnored_iff.mp ignored).1
      rw [there] at offset
      refine ⟨onePass, ?_⟩
      rw [List.foldl_cons, offset, accepted, if_neg ignored, List.foldl_cons, forward]

theorem OnePass.foldlM_advanceTo? (short : source.length < UInt32.size - 1) (stops : List Nat) :
    stops.foldlM advanceTo? c = some (stops.foldl Cursor.advanceTo c) := by
  induction stops generalizing c with
  | nil => rfl
  | cons stop stops ih =>
    rw [List.foldlM_cons, h.advanceTo?_eq_some short]
    exact ih (h.advanceTo stop)

end Run

/-- In whatever order the stops come, the largest of those between two characters is where they lead. -/
theorem foldl_max_accepted (source : String) (offset : Nat) (stops : List Nat) :
    (accepted source offset stops).foldl max offset =
      (stops.filter fun stop => (String.Pos.Raw.mk stop).isValid source).foldl max offset := by
  induction stops generalizing offset with
  | nil => rfl
  | cons stop stops ih =>
    by_cases valid : (String.Pos.Raw.mk stop).IsValid source
    · have kept : (String.Pos.Raw.mk stop).isValid source = true := String.Pos.Raw.isValid_eq_true_iff.mpr valid
      rw [List.filter_cons, if_pos kept, List.foldl_cons, accepted]
      by_cases back : stop < offset
      · rw [if_pos (.inl back), Nat.max_eq_left (Nat.le_of_lt back)]
        exact ih offset
      · have ahead := Nat.le_of_not_lt back
        rw [if_neg (not_isIgnored_iff.mpr ⟨ahead, valid⟩), List.foldl_cons, Nat.max_eq_right ahead]
        exact ih stop
    · have dropped : ¬ (String.Pos.Raw.mk stop).isValid source = true := mt String.Pos.Raw.isValid_eq_true_iff.mp valid
      rw [List.filter_cons, if_neg dropped, accepted, if_pos (.inr (.inr valid))]
      exact ih offset

/--
Wherever a new place is sent, back, beyond the text or into a character, once or again: it ends up where one move to the
furthest stop that it accepted would bring it, at the position told by the text before that stop. That stop is the
largest of those between two characters. On the way no counter leaves the numbers of 32 bits if the text has fewer than
`2 ^ 32 - 1` characters. At any time a stop is ignored if and only if it is before the place, beyond the text or inside
a character, and then offset and position stay as they are.
-/
theorem foldl_advanceTo_start {source : String} (short : source.length < UInt32.size - 1) (stops : List Nat) :
    let new := start source.toList
    let place := stops.foldl advanceTo new
    let furthest := (accepted source 0 stops).foldl max 0
    stops.foldlM advanceTo? new = some place ∧
      place = new.advanceTo furthest ∧ place.offset = furthest ∧
      (∃ before, source.toList = before ++ place.rest ∧ place.offset = byteLength before ∧
        place.position = ⟨1 + before.count '\n', 1 + columns place.rest (lastLine before)⟩) ∧
      furthest = (stops.filter fun stop => (String.Pos.Raw.mk stop).isValid source).foldl max 0 ∧
      ∀ stop, (IsIgnored source place.offset stop ↔ (place.advanceTo stop).offset ≠ stop) ∧
        (IsIgnored source place.offset stop → place.advanceTo stop = place) := by
  intro new place furthest
  have fresh : OnePass source new := onePass_start source
  obtain ⟨onePass, offset⟩ : OnePass source place ∧ place.offset = furthest := fresh.foldl_advanceTo stops
  have valid : (String.Pos.Raw.mk place.offset).IsValid source := (not_isIgnored_iff.mp onePass.not_isIgnored_offset).2
  have reached : (new.advanceTo furthest).offset = furthest :=
    (fresh.advanceTo_accepted (not_isIgnored_iff.mpr ⟨Nat.zero_le furthest, offset ▸ valid⟩)).1
  refine ⟨fresh.foldlM_advanceTo? short stops, ?_, offset, onePass.exists_before, foldl_max_accepted source 0 stops,
    fun stop => ?_⟩
  · exact onePass.eq_of_offset (fresh.advanceTo furthest) (offset.trans reached.symm)
  · by_cases ignored : IsIgnored source place.offset stop
    · have elsewhere : place.offset ≠ stop := fun here => onePass.not_isIgnored_offset (here ▸ ignored)
      rw [onePass.advanceTo_ignored ignored]
      exact ⟨iff_of_true ignored elsewhere, fun _ => rfl⟩
    · have there : (place.advanceTo stop).offset = stop := (onePass.advanceTo_accepted ignored).1
      exact ⟨iff_of_false ignored (not_not_intro there), fun taken => absurd taken ignored⟩

/-- Stops inside a character, between a carriage return and its line feed, at the place itself, before it, beyond the
text and behind a carriage return that stands alone. -/
theorem foldl_advanceTo_start_astray :
    let source := "é\r\n\rb"
    let new := start source.toList
    let place := [1, 3, 3, 2, 9, 5, 4].foldl advanceTo new
    source.length < UInt32.size - 1 ∧ accepted source 0 [1, 3, 3, 2, 9, 5, 4] = [3, 3, 5] ∧
      [1, 3, 3, 2, 9, 5, 4].foldlM advanceTo? new = some place ∧ place = new.advanceTo 5 ∧
      place.position = ⟨2, 2⟩ ∧ IsIgnored source place.offset 4 ∧ place.advanceTo 4 = place := by
  intro source new place
  have short : source.length < UInt32.size - 1 := by decide
  have taken : accepted source 0 [1, 3, 3, 2, 9, 5, 4] = [3, 3, 5] := by decide
  have furthest : (accepted source 0 [1, 3, 3, 2, 9, 5, 4]).foldl max 0 = 5 := by rw [taken]; rfl
  obtain ⟨counted, once, offset, -, -, ignored⟩ := foldl_advanceTo_start short [1, 3, 3, 2, 9, 5, 4]
  rw [furthest] at once offset
  have back : IsIgnored source place.offset 4 := .inl (offset ▸ by decide)
  exact ⟨short, taken, counted, once, (congrArg position once).trans (by decide), back, (ignored 4).2 back⟩

end Cursor
end ArmScript
