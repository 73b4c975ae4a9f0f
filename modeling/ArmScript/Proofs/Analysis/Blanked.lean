import Mathlib.Data.List.Forall2
import ArmScript.Proofs.Analysis.Spans
import ArmScript.Proofs.Token.Gaps

set_option autoImplicit false

namespace ArmScript

/-- A text with a space for each character that starts at one of the offsets. -/
def blankAt (offsets : List Nat) (offset : Nat) : List Char → List Char
  | [] => []
  | c :: cs => (if offset ∈ offsets then ' ' else c) :: blankAt offsets (offset + c.utf8Size) cs

def invalidOffsets (words : List Token) : List Nat := (invalidTokens words).map fun t => t.span.start

def blankInvalid (source : String) : String :=
  String.ofList (blankAt (invalidOffsets (tokenize source)) 0 source.toList)

example : blankInvalid "_r1/ // @\n٣.base" = " r1  // @\n .base" := by decide +kernel

section BlankAt
variable (offsets : List Nat) (offset : Nat)

theorem blankAt_append (as bs : List Char) :
    blankAt offsets offset (as ++ bs) = blankAt offsets offset as ++ blankAt offsets (offset + byteLength as) bs := by
  induction as generalizing offset with
  | nil => rfl
  | cons a as ih => simp only [List.cons_append, blankAt, ih, byteLength_cons, Nat.add_assoc]

theorem blankAt_eq_self {cs : List Char} (h : ∀ o ∈ offsets, offset ≤ o → offset + byteLength cs ≤ o) :
    blankAt offsets offset cs = cs := by
  induction cs generalizing offset with
  | nil => rfl
  | cons c cs ih =>
    have size := c.utf8Size_pos
    rw [byteLength_cons] at h
    have here : offset ∉ offsets := fun member => by
      have beyond := h offset member (Nat.le_refl _)
      omega
    rw [blankAt, if_neg here, ih _ fun o member after => by
      have beyond := h o member (by omega)
      omega]

theorem start_of_blankAt {text after : List Char} {c : Char} (h : blankAt offsets offset text = c :: after) :
    Text.isBlank c = true ∨ ∃ behind, text = c :: behind := by
  cases text with
  | nil => cases h
  | cons d ds =>
    obtain ⟨rfl, -⟩ := List.cons.inj h
    split
    · exact .inl (by decide)
    · exact .inr ⟨ds, rfl⟩

theorem softens_blankAt (rest : List Char) : Softens rest (blankAt offsets offset rest) where
  first _ _ h := start_of_blankAt offsets offset h
  point c after h := by
    rcases start_of_blankAt offsets offset h with hb | ⟨behind, rfl⟩
    · exact absurd hb (by decide)
    · have next : blankAt offsets (offset + '.'.utf8Size) behind = c :: after := (List.cons.inj h).2
      exact (start_of_blankAt offsets _ next).imp_right fun ⟨after, same⟩ => ⟨after, same ▸ rfl⟩

end BlankAt

def CountsAlike (c d : Char) : Prop := (c = '\n' ↔ d = '\n') ∧ (c = '\r' ↔ d = '\r')

theorem CountsAlike.refl (c : Char) : CountsAlike c c := ⟨Iff.rfl, Iff.rfl⟩

theorem countsAlike_space {c : Char} (solid : Text.isBlank c = false) : CountsAlike c ' ' := by
  constructor
  · refine iff_of_false ?_ (by decide)
    rintro rfl
    revert solid
    decide
  · refine iff_of_false ?_ (by decide)
    rintro rfl
    revert solid
    decide

namespace Position

theorem walk_congr {cs ds following other : List Char} (h : List.Forall₂ CountsAlike cs ds)
    (ahead : following.head? = some '\n' ↔ other.head? = some '\n') (p : Position) :
    p.walk following cs = p.walk other ds := by
  induction h generalizing p with
  | nil => rfl
  | @cons c d cs ds same rest ih =>
    have next : cs.head?.or following.head? = some '\n' ↔ ds.head?.or other.head? = some '\n' := by
      cases rest with
      | nil => simpa using ahead
      | cons first _ => simpa using first.1
    have step : p.step c (cs.head?.or following.head?) = p.step d (ds.head?.or other.head?) := by
      simp only [Position.step, same.1, same.2, next]
    rw [walk, walk, step, ih]

end Position

section Places
variable {read other : List Char}

theorem countsAlike_append (alike : List.Forall₂ CountsAlike read other) (cs : List Char) :
    List.Forall₂ CountsAlike (read ++ cs) (other ++ cs) :=
  List.rel_append alike (List.forall₂_same.mpr fun c _ => CountsAlike.refl c)

theorem Piece.token_unspanned {piece : Piece} {rest behind : List Char} (alike : List.Forall₂ CountsAlike read other)
    (h : piece.Precedes rest) : (piece.token other behind).unspanned = (piece.token read rest).unspanned := by
  obtain ⟨c, cs, text⟩ := h.exists_text
  have ahead : (c :: cs ++ rest).head? = some '\n' ↔ (c :: cs ++ behind).head? = some '\n' := Iff.rfl
  have place := Position.walk_congr alike ahead .start
  simp only [token, Token.unspanned, text, place]

theorem Token.endOf_unspanned (alike : List.Forall₂ CountsAlike read other) :
    (Token.endOf other).unspanned = (Token.endOf read).unspanned := by
  have place : Position.start.walk [] read = Position.start.walk [] other :=
    Position.walk_congr alike Iff.rfl .start
  simp only [endOf, unspanned, place]

end Places

theorem Piece.Precedes.exists_invalid {piece : Piece} {rest : List Char} (h : piece.Precedes rest)
    (invalid : piece.kind = .invalid) : ∃ c, piece.text = [c] ∧ Text.isBlank c = false := by
  obtain ⟨c, text, nothing⟩ := (h.classified (by rw [invalid]; rfl)).invalid.mp invalid
  exact ⟨c, by simpa using text, nothing.blank⟩

theorem Laid.le_of_mem_invalidOffsets {read rest : List Char} {words : List Token} (h : Laid read rest words) {o : Nat}
    (ho : o ∈ invalidOffsets words) : byteLength read ≤ o := by
  obtain ⟨word, hw, rfl⟩ := List.mem_map.mp ho
  exact h.byteLength_le (List.mem_filter.mp hw).1

theorem mem_invalidOffsets_cons {word : Token} {words : List Token} {o : Nat} :
    o ∈ invalidOffsets (word :: words) ↔ (word.kind = .invalid ∧ o = word.span.start) ∨ o ∈ invalidOffsets words := by
  by_cases h : word.kind = .invalid <;> simp [invalidOffsets, invalidTokens, h]

/-- Of the offsets behind a text that was read, the invalid characters among the words to come start at these. -/
def ListsInvalid (offsets : List Nat) (read : List Char) (words : List Token) : Prop :=
  ∀ o, byteLength read ≤ o → (o ∈ offsets ↔ o ∈ invalidOffsets words)

section Word
variable {offsets : List Nat} {read gap rest : List Char} {piece : Piece} {words : List Token}
  (listed : ListsInvalid offsets read (piece.token (read ++ gap) rest :: words))
  (later : Laid (read ++ gap ++ piece.text) rest words)
include listed

theorem ListsInvalid.behind (nonempty : piece.text ≠ []) : ListsInvalid offsets (read ++ gap ++ piece.text) words := by
  intro o after
  obtain ⟨c, cs, text⟩ := List.exists_cons_of_ne_nil nonempty
  have size := c.utf8Size_pos
  simp only [byteLength_append, text, byteLength_cons] at after
  rw [listed o (by omega), mem_invalidOffsets_cons]
  refine or_iff_right fun here => ?_
  simp only [Piece.token, byteLength_append] at here
  omega

theorem ListsInvalid.blankAt_invalid (invalid : piece.kind = .invalid) {c : Char} (text : piece.text = [c]) :
    blankAt offsets (byteLength (read ++ gap)) piece.text = [' '] := by
  have member : byteLength (read ++ gap) ∈ offsets :=
    (listed _ (by simp)).mpr (mem_invalidOffsets_cons.mpr (.inl ⟨invalid, rfl⟩))
  rw [text, blankAt, if_pos member]
  rfl

include later

theorem ListsInvalid.blankAt_gap : blankAt offsets (byteLength read) gap = gap := by
  refine blankAt_eq_self _ _ fun o member after => ?_
  rcases mem_invalidOffsets_cons.mp ((listed o after).mp member) with ⟨-, rfl⟩ | beyond
  · simp [Piece.token]
  · have bound := later.le_of_mem_invalidOffsets beyond
    simp only [byteLength_append] at bound
    omega

theorem ListsInvalid.blankAt_valid (valid : piece.kind ≠ .invalid) :
    blankAt offsets (byteLength (read ++ gap)) piece.text = piece.text := by
  refine blankAt_eq_self _ _ fun o member after => ?_
  simp only [byteLength_append] at after
  have beyond : o ∈ invalidOffsets words :=
    (mem_invalidOffsets_cons.mp ((listed o (by omega)).mp member)).resolve_left fun here => valid here.1
  rw [← byteLength_append]
  exact later.le_of_mem_invalidOffsets beyond

end Word

theorem Laid.blanked {read rest : List Char} {words : List Token} (h : Laid read rest words) {offsets : List Nat}
    {other : List Char} (listed : ListsInvalid offsets read words) (alike : List.Forall₂ CountsAlike read other) :
    ∃ left, Laid other (blankAt offsets (byteLength read) rest) left ∧
      left.map Token.unspanned = (significant words).map Token.unspanned := by
  induction h generalizing other with
  | @stop read gap h =>
    have kept : blankAt offsets (byteLength read) gap = gap := by
      refine blankAt_eq_self _ _ fun o member after => ?_
      cases (listed o after).mp member
    rw [kept]
    exact ⟨_, .stop h, congrArg (fun last => [last]) (Token.endOf_unspanned (countsAlike_append alike gap))⟩
  | @word read gap rest piece words h solid precedes later ih =>
    obtain ⟨c, cs, text, start⟩ := precedes.exists_start solid
    have nonempty : piece.text ≠ [] := by simp [text]
    have alike' := countsAlike_append alike gap
    rw [text] at h
    rw [blankAt_append, listed.blankAt_gap later, blankAt_append, ← byteLength_append, ← byteLength_append]
    generalize hr : blankAt offsets (byteLength (read ++ gap ++ piece.text)) rest = rest' at ih ⊢
    by_cases invalid : piece.kind = .invalid
    · obtain ⟨d, single, blank⟩ := precedes.exists_invalid invalid
      have spaced : List.Forall₂ CountsAlike (read ++ gap ++ piece.text) (other ++ gap ++ [' ']) := by
        rw [single]
        exact List.rel_append alike' (.cons (countsAlike_space blank) .nil)
      obtain ⟨left, laid, same⟩ := ih (listed.behind nonempty) spaced
      rw [List.append_assoc other] at laid
      rw [listed.blankAt_invalid invalid single, ← List.append_assoc gap]
      -- the space closes the gap in front of it, and the next gap goes on with both
      have front : Gap gap ([' '] ++ rest') := h.of_start start
      refine ⟨left, laid.behind_gap (front.append (.blank rfl (.nil _))), ?_⟩
      rw [same]
      simp [significant, Piece.token, invalid]
    · obtain ⟨left, laid, same⟩ := ih (listed.behind nonempty) (countsAlike_append alike' piece.text)
      rw [listed.blankAt_valid later invalid]
      have front : Gap gap (piece.text ++ rest') := by
        rw [text]
        exact h.of_start start
      have soft : Softens rest rest' := hr ▸ softens_blankAt offsets _ rest
      refine ⟨_, .word front solid (precedes.of_softens solid soft) laid, ?_⟩
      have valid : (piece.kind != .invalid) = true := bne_iff_ne.mpr invalid
      rw [List.map_cons, same, Piece.token_unspanned alike' precedes]
      simp [significant, Piece.token, valid]

theorem tokenize_blankInvalid (source : String) :
    (tokenize (blankInvalid source)).map Token.unspanned = (significant (tokenize source)).map Token.unspanned := by
  obtain ⟨left, laid, same⟩ := (laid_tokenize source).blanked (fun _ _ => Iff.rfl) .nil
  have text : (blankInvalid source).toList =
      blankAt (invalidOffsets (tokenize source)) (byteLength []) source.toList := String.toList_ofList
  rw [← text] at laid
  rw [tokenize_of_laid laid, same]

theorem significant_blankInvalid (source : String) :
    significant (tokenize (blankInvalid source)) = tokenize (blankInvalid source) := by
  refine List.filter_eq_self.mpr fun t ht => ?_
  have shown : t.unspanned ∈ (significant (tokenize source)).map Token.unspanned :=
    tokenize_blankInvalid source ▸ List.mem_map_of_mem ht
  obtain ⟨word, hw, same⟩ := List.mem_map.mp shown
  have kind : word.unspanned.kind = t.unspanned.kind := congrArg Token.kind same
  change (t.unspanned.kind != .invalid) = true
  rw [← kind]
  exact (List.mem_filter.mp hw).2

theorem invalidTokens_eq_nil {tokens : List Token} (h : significant tokens = tokens) : invalidTokens tokens = [] := by
  refine List.filter_eq_nil_iff.mpr fun t ht => ?_
  rw [← h] at ht
  simpa using (List.mem_filter.mp ht).2

theorem diagnostics_blankInvalid (source : String) :
    (analyze (blankInvalid source)).diagnostics = findings (blankInvalid source) := by
  rw [diagnostics_eq_findings, invalidTokens_eq_nil (significant_blankInvalid source)]
  rfl

/-- With a space for each of its invalid characters, a script has the same other words with the same spellings and in
the same places. What is found about its characters is nothing then, and what is found about its sentences, names and
values, and the robots that it declares, are the same as before. Only byte offsets may differ. -/
theorem analyze_blankInvalid (source : String) :
    let blanked := blankInvalid source
    (tokenize blanked).map Token.unspanned =
        ((tokenize source).filter fun t => t.kind != .invalid).map Token.unspanned ∧
      (∀ d ∈ (analyze blanked).diagnostics, d.stage ≠ .lexical) ∧
      (analyze blanked).diagnostics.map Diagnostic.unspanned =
        ((analyze source).diagnostics.filter fun d => d.stage != .lexical).map Diagnostic.unspanned ∧
      (analyze blanked).symbols.robots.map Robot.unspanned =
        (analyze source).symbols.robots.map Robot.unspanned := by
  intro blanked
  have words := tokenize_blankInvalid source
  have same : (significant (tokenize blanked)).map Token.unspanned =
      (significant (tokenize source)).map Token.unspanned := by
    rw [significant_blankInvalid, words]
  have found := findings_of_significant same
  refine ⟨words, ?_, ?_, robots_of_significant same⟩
  · rw [diagnostics_blankInvalid]
    exact stage_findings blanked
  · rw [diagnostics_blankInvalid, found, filter_diagnostics]

end ArmScript
