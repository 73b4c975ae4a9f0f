import ArmScript.Proofs.Token.Layout

set_option autoImplicit false

namespace ArmScript

/-- The text of some words, each with the gap in front of it. -/
def woven (parts : List (List Char × Token)) : List Char :=
  parts.flatMap fun (gap, word) => gap ++ word.lexeme.toList

/-- A word in its place: what stands before its gap, the gap, the word, and what stands behind it. -/
structure Placed (before gap : List Char) (word : Token) (behind : List Char) : Prop where
  skipped : Gap gap (word.lexeme.toList ++ behind)
  nonempty : word.lexeme ≠ ""
  significant : word.kind.isTrivia = false
  notStop : word.kind ≠ .endOfInput
  start : word.span.start = byteLength (before ++ gap)
  stop : word.span.stop = byteLength (before ++ gap ++ word.lexeme.toList)

/-- What a stream answers when it is asked for words again and again. It stays as it is when it has none. -/
def TokenStream.answer (s : TokenStream) : Nat → Option Token
  | 0 => s.next.map Prod.fst
  | n + 1 => match s.next with
    | none => s.answer n
    | some (_, t) => t.answer n

theorem TokenStream.answer_eq (s : TokenStream) (n : Nat) : s.answer n = s.toList[n]? := by
  induction n generalizing s with
  | zero =>
    cases h : s.next with
    | none => simp [answer, h, toList_of_finished h]
    | some result => simp [answer, h, toList_of_next h]
  | succ n ih =>
    cases h : s.next with
    | none => simp [answer, h, ih, toList_of_finished h]
    | some result => simp [answer, h, ih, toList_of_next h]

theorem Piece.placed {piece : Piece} {before gap rest : List Char} (h : Gap gap (piece.text ++ rest))
    (significant : piece.kind.isTrivia = false) (precedes : piece.Precedes rest) :
    Placed before gap (piece.token (before ++ gap) rest) rest := by
  obtain ⟨c, cs, text, -⟩ := precedes.exists_start significant
  refine ⟨?_, ?_, significant, precedes.ne_endOfInput, rfl, ?_⟩
  · simpa [token] using h
  · simp [token, text]
  · simp [token, Nat.add_assoc]

theorem Laid.exists_parts {read rest : List Char} {words : List Token} (h : Laid read rest words) :
    ∃ parts last, words = parts.map Prod.snd ++ [.endOf (read ++ rest)] ∧ rest = woven parts ++ last ∧ Gap last [] ∧
      ∀ earlier gap word later, parts = earlier ++ (gap, word) :: later →
        Placed (read ++ woven earlier) gap word (woven later ++ last) := by
  induction h with
  | stop h => exact ⟨[], _, rfl, rfl, h, by simp⟩
  | @word read gap rest piece words before significant precedes _ ih =>
    obtain ⟨parts, last, rfl, rfl, hl, placed⟩ := ih
    refine ⟨(gap, piece.token (read ++ gap) (woven parts ++ last)) :: parts, last, ?_, ?_, hl, ?_⟩
    · simp
    · simp [woven, Piece.token]
    · intro earlier gap' word later same
      cases earlier with
      | nil =>
        cases same
        simpa [woven] using Piece.placed before significant precedes
      | cons first earlier =>
        cases same
        simpa [woven, Piece.token] using placed earlier gap' word later rfl

theorem Laid.length_le {read rest : List Char} {words : List Token} (h : Laid read rest words) :
    words.length ≤ rest.length + 1 := by
  induction h with
  | stop h => simp
  | word before significant precedes later ih =>
    obtain ⟨c, cs, text, -⟩ := precedes.exists_start significant
    simp only [List.length_cons, List.length_append, text]
    omega

theorem Laid.byteLength_le {read rest : List Char} {words : List Token} (h : Laid read rest words) {word : Token}
    (hw : word ∈ words) : byteLength read ≤ word.span.start := by
  rcases h.exists_piece hw with ⟨skipped, piece, behind, -, -, -, rfl⟩ | rfl
  · simp [Piece.token]
  · simp [Token.endOf]

theorem Laid.pairwise_span {read rest : List Char} {words : List Token} (h : Laid read rest words) :
    words.Pairwise fun a b => a.span.stop ≤ b.span.start :=
  h.pairwise fun _ _ later word hw => by simpa [Piece.token] using later.byteLength_le hw

theorem extract_toByteArray {source text : String} {before behind : List Char}
    (h : source.toList = before ++ text.toList ++ behind) :
    source.toByteArray.extract (byteLength before) (byteLength (before ++ text.toList)) = text.toByteArray := by
  have size : ∀ cs : List Char, byteLength cs = (String.ofList cs).toByteArray.size := by
    intro cs
    rw [String.size_toByteArray, ← byteLength_toList, String.toList_ofList]
  have parts : source = String.ofList before ++ text ++ String.ofList behind := by
    rw [← String.toList_inj, String.toList_append, String.toList_append, h, String.toList_ofList, String.toList_ofList]
  have slice := ByteArray.extract_append_size_add' (i := 0) (j := byteLength text.toList)
    (b := text.toByteArray ++ (String.ofList behind).toByteArray) (size before)
  rw [Nat.add_zero] at slice
  rw [parts, String.toByteArray_append, String.toByteArray_append, ByteArray.append_assoc, byteLength_append, slice]
  exact ByteArray.extract_append_eq_left (by rw [size, String.ofList_toList])

/-- Every text is its words and the gaps between them, and nothing else. The words stand in it in their order, each
with the bytes that its span gives. The mark of the end comes last, and behind it nothing ever comes. -/
theorem tokenize_lossless (source : String) :
    ∃ parts last stop, tokenize source = parts.map Prod.snd ++ [stop] ∧
      source.toList = woven parts ++ last ∧ Gap last [] ∧
      (∀ earlier gap word later, parts = earlier ++ (gap, word) :: later →
        Placed (woven earlier) gap word (woven later ++ last) ∧
          source.toByteArray.extract word.span.start word.span.stop = word.lexeme.toByteArray) ∧
      (parts.map Prod.snd).Pairwise (fun a b => a.span.stop ≤ b.span.start) ∧
      parts.length ≤ source.length ∧
      stop.kind = .endOfInput ∧ stop.lexeme = "" ∧ stop.span = ⟨source.utf8ByteSize, source.utf8ByteSize⟩ ∧
      ∀ n, (TokenStream.ofText source).answer n = (tokenize source)[n]? := by
  have laid := laid_tokenize source
  obtain ⟨parts, last, words, text, hl, placed⟩ := laid.exists_parts
  have apart := laid.pairwise_span
  have count := laid.length_le
  rw [words] at apart count
  have bytes : byteLength source.toList = source.utf8ByteSize := byteLength_toList source
  refine ⟨parts, last, .endOf source.toList, words, text, hl, fun earlier gap word later same => ?_,
    (List.pairwise_append.mp apart).1, ?_, rfl, rfl, by rw [← bytes]; rfl, TokenStream.answer_eq _⟩
  · have here := placed earlier gap word later same
    refine ⟨here, ?_⟩
    rw [here.start, here.stop]
    have split : source.toList = (woven earlier ++ gap) ++ word.lexeme.toList ++ (woven later ++ last) := by
      simp [text, same, woven]
    exact extract_toByteArray split
  · rw [← String.length_toList]
    simpa using count

end ArmScript
