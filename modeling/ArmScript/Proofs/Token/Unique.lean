import ArmScript.Proofs.Token.Classes

set_option autoImplicit false

namespace ArmScript

section Runs
variable {p : Char → Bool} {run rest : List Char}

theorem EndsRun.takeWhile_eq_nil (h : EndsRun p rest) : rest.takeWhile p = [] := by
  cases rest with
  | nil => rfl
  | cons c cs => exact List.takeWhile_cons_of_neg (by simp [h c rfl])

theorem takeWhile_run (all : ∀ c ∈ run, p c = true) (ends : EndsRun p rest) : (run ++ rest).takeWhile p = run := by
  rw [List.takeWhile_append_of_pos all, ends.takeWhile_eq_nil, List.append_nil]

theorem dropWhile_run (all : ∀ c ∈ run, p c = true) (ends : EndsRun p rest) : (run ++ rest).dropWhile p = rest := by
  have split := List.takeWhile_append_dropWhile (p := p) (l := run ++ rest)
  rw [takeWhile_run all ends] at split
  exact List.append_cancel_left split

end Runs

section Digits
variable {ds es rest : List Char} {e : Char}

theorem numberTail_whole (digits : ∀ d ∈ ds, d.isDigit = true) (ends : EndsRun Char.isDigit rest)
    (pointless : ∀ e after, rest = '.' :: e :: after → e.isDigit = false) : numberTail (ds ++ rest) = ds := by
  unfold numberTail
  rw [takeWhile_run digits ends, dropWhile_run digits ends]
  split
  · next e after => simp [pointless e after rfl]
  · simp

theorem numberTail_decimal (digits : ∀ d ∈ ds, d.isDigit = true) (decimals : ∀ d ∈ e :: es, d.isDigit = true)
    (ends : EndsRun Char.isDigit rest) : numberTail (ds ++ '.' :: e :: (es ++ rest)) = ds ++ '.' :: e :: es := by
  have point : EndsRun Char.isDigit ('.' :: e :: (es ++ rest)) := by
    rintro c ⟨⟩
    decide
  obtain ⟨first, others⟩ := List.forall_mem_cons.mp decimals
  unfold numberTail
  rw [takeWhile_run digits point, dropWhile_run digits point]
  simp [first, takeWhile_run others ends]

end Digits

theorem ne_slash {p : Char → Bool} {c : Char} (h : p c = true) (slash : p '/' = false) : c ≠ '/' := by
  rintro rfl
  rw [h] at slash
  cases slash

/-- A piece in front of a text that it can stand in front of is what the whole starts with. -/
theorem Piece.Precedes.first_eq {piece : Piece} {c : Char} {cs rest : List Char} (h : piece.Precedes rest)
    (text : piece.text = c :: cs) : Piece.first c (cs ++ rest) = piece := by
  unfold Piece.first
  cases h with
  | @comment line rest within ends =>
    cases text
    have all : ∀ d ∈ '/' :: line, (!endsLine d) = true :=
      List.forall_mem_cons.mpr ⟨by decide, fun d hd => by simp [within d hd]⟩
    have taken : ('/' :: line ++ rest).takeWhile (fun d => !endsLine d) = '/' :: line := takeWhile_run all ends
    rw [if_pos ⟨rfl, rfl⟩, taken]
  | blank all ends =>
    cases text
    obtain ⟨first, others⟩ := List.forall_mem_cons.mp all
    have noSlash := ne_slash first (by decide)
    rw [if_neg fun slashes => noSlash slashes.1, if_pos first, takeWhile_run others ends]
  | whole digits ends pointless =>
    cases text
    obtain ⟨first, others⟩ := List.forall_mem_cons.mp digits
    have noSlash := ne_slash first rfl
    rw [if_neg fun slashes => noSlash slashes.1, if_neg (by simp [isBlank_of_isDigit first]), if_pos first,
      numberTail_whole others ends pointless]
  | @decimal d e ds es rest digits decimals ends =>
    obtain ⟨rfl, rfl⟩ : d = c ∧ ds ++ '.' :: e :: es = cs := List.cons.inj text
    obtain ⟨first, others⟩ := List.forall_mem_cons.mp digits
    have noSlash := ne_slash first rfl
    have tail := numberTail_decimal others decimals ends
    rw [if_neg fun slashes => noSlash slashes.1, if_neg (by simp [isBlank_of_isDigit first]), if_pos first,
      List.append_assoc]
    exact congrArg (fun tail => Piece.mk .number (d :: tail)) tail
  | word blank start parts ends =>
    cases text
    have noSlash := ne_slash start (by decide)
    rw [if_neg fun slashes => noSlash slashes.1, if_neg (by simp [blank]),
      if_neg (by simp [isDigit_of_isAlphabetic start]), if_pos start, takeWhile_run parts ends]
  | mark h =>
    cases text
    obtain ⟨letter, digit⟩ := start_of_punctuation h
    have noSlash : c ≠ '/' := by
      rintro rfl
      cases h
    rw [if_neg fun slashes => noSlash slashes.1, if_neg (by simp [(isTrivia_punctuation h).2]),
      if_neg (by simp [digit]), if_neg (by simp [letter]), h]
  | invalid blank digit letter mark slash =>
    cases text
    rw [List.nil_append, if_neg slash, if_neg (by simp [blank]), if_neg (by simp [digit]), if_neg (by simp [letter]),
      mark]

theorem Piece.Precedes.exists_text {piece : Piece} {rest : List Char} (h : piece.Precedes rest) :
    ∃ c cs, piece.text = c :: cs := by
  cases h <;> exact ⟨_, _, rfl⟩

section Scan
variable (read : List Char) {rest : List Char} {piece : Piece}

theorem Cursor.scan_trivia (h : piece.Precedes rest) (trivia : piece.kind.isTrivia = true) :
    (Cursor.between read (piece.text ++ rest)).scan = (Cursor.between (read ++ piece.text) rest).scan := by
  obtain ⟨c, cs, text⟩ := h.exists_text
  have first := h.first_eq text
  rw [← advanceTo_between, text, scan]
  simp only [between, List.cons_append, first, trivia, if_true, text]

theorem Cursor.scan_word (h : piece.Precedes rest) (significant : piece.kind.isTrivia = false) :
    (Cursor.between read (piece.text ++ rest)).scan =
      (piece.token read rest, Cursor.between (read ++ piece.text) rest) := by
  obtain ⟨c, cs, text⟩ := h.exists_text
  have first := h.first_eq text
  rw [← advanceTo_between, text, scan]
  simp [between, first, significant, Piece.token, text]

theorem Cursor.scan_blank {c : Char} (h : Text.isBlank c = true) :
    (Cursor.between read (c :: rest)).scan = (Cursor.between (read ++ [c]) rest).scan := by
  have all := forall_mem_takeWhile Text.isBlank rest
  have ends := endsRun_dropWhile Text.isBlank rest
  have run := Cursor.scan_trivia read (.blank (List.forall_mem_cons.mpr ⟨h, all⟩) ends) rfl
  rw [List.cons_append, List.takeWhile_append_dropWhile] at run
  rw [run]
  cases hw : rest.takeWhile Text.isBlank with
  | nil =>
    have split := List.takeWhile_append_dropWhile (p := Text.isBlank) (l := rest)
    rw [hw, List.nil_append] at split
    rw [split]
  | cons d ds =>
    rw [hw] at all
    have later := Cursor.scan_trivia (read ++ [c]) (.blank all ends) rfl
    rw [← hw, List.takeWhile_append_dropWhile] at later
    rw [later, hw, List.append_assoc]
    rfl

theorem Cursor.scan_gap {gap behind : List Char} (h : Gap gap behind) :
    (Cursor.between read (gap ++ behind)).scan = (Cursor.between (read ++ gap) behind).scan := by
  induction h generalizing read with
  | nil behind => rw [List.nil_append, List.append_nil]
  | @blank c gap behind hc _ ih =>
    rw [List.cons_append, scan_blank read hc, ih, List.append_assoc]
    rfl
  | @comment line gap behind within ends _ ih =>
    have comment : Piece.Precedes ⟨.comment, '/' :: '/' :: line⟩ (gap ++ behind) :=
      .comment within fun c hc => by simp [ends c hc]
    have passed := scan_trivia read comment rfl
    rw [List.append_assoc, passed, ih, List.append_assoc]

end Scan

theorem Laid.toList_eq {read rest : List Char} {words : List Token} (h : Laid read rest words) :
    TokenStream.toList ⟨.between read rest, false⟩ = words := by
  induction h with
  | @stop read gap h =>
    have scanned : (Cursor.between read gap).scan = (.endOf (read ++ gap), .between (read ++ gap) []) := by
      have passed := Cursor.scan_gap read h
      rw [List.append_nil] at passed
      rw [passed, Cursor.scan]
      rfl
    have next : TokenStream.next ⟨.between read gap, false⟩ =
        some (.endOf (read ++ gap), ⟨.between (read ++ gap) [], true⟩) := by
      rw [TokenStream.next, scanned]
      rfl
    rw [TokenStream.toList_of_next next, TokenStream.toList_of_finished rfl]
  | @word read gap rest piece words h significant precedes _ ih =>
    have goesOn : (piece.kind == .endOfInput) = false := beq_eq_false_iff_ne.mpr precedes.ne_endOfInput
    have next : TokenStream.next ⟨.between read (gap ++ (piece.text ++ rest)), false⟩ =
        some (piece.token (read ++ gap) rest, ⟨.between (read ++ gap ++ piece.text) rest, false⟩) := by
      rw [TokenStream.next, Cursor.scan_gap read h, Cursor.scan_word (read ++ gap) precedes significant]
      simp only [Piece.token, goesOn]
      rfl
    rw [TokenStream.toList_of_next next, ih]

theorem tokenize_of_laid {source : String} {words : List Token} (h : Laid [] source.toList words) :
    tokenize source = words := h.toList_eq

end ArmScript
