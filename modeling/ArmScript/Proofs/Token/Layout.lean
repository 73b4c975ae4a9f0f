import ArmScript.Token.Stream

/-!
A text and its words. The text is its words with gaps of blanks and comments in front of them and behind the last
one, and nothing else. Each word knows its place in the text, and it is as long as a word of its kind can be.
-/
set_option autoImplicit false

namespace ArmScript

/-- No character of the class goes on with what was read. -/
def EndsRun (p : Char → Bool) (rest : List Char) : Prop := ∀ c ∈ rest.head?, p c = false

theorem endsRun_dropWhile (p : Char → Bool) (cs : List Char) : EndsRun p (cs.dropWhile p) := by
  intro c hc
  have stop := List.head?_dropWhile_not p cs
  rw [Option.mem_def.mp hc] at stop
  simpa using stop

theorem forall_mem_takeWhile (p : Char → Bool) (cs : List Char) : ∀ c ∈ cs.takeWhile p, p c = true :=
  List.all_eq_true.mp List.all_takeWhile

/-- The pieces that a text can start with, each with the text that can stand behind it. -/
inductive Piece.Precedes : Piece → List Char → Prop where
  | comment {line rest : List Char} (within : ∀ c ∈ line, endsLine c = false)
      (ends : EndsRun (fun c => !endsLine c) rest) : Precedes ⟨.comment, '/' :: '/' :: line⟩ rest
  | blank {c : Char} {cs rest : List Char} (all : ∀ d ∈ c :: cs, Text.isBlank d = true)
      (ends : EndsRun Text.isBlank rest) : Precedes ⟨.blank, c :: cs⟩ rest
  | whole {d : Char} {ds rest : List Char} (digits : ∀ e ∈ d :: ds, e.isDigit = true)
      (ends : EndsRun Char.isDigit rest)
      (pointless : ∀ e after, rest = '.' :: e :: after → e.isDigit = false) : Precedes ⟨.number, d :: ds⟩ rest
  | decimal {d e : Char} {ds es rest : List Char} (digits : ∀ x ∈ d :: ds, x.isDigit = true)
      (decimals : ∀ x ∈ e :: es, x.isDigit = true) (ends : EndsRun Char.isDigit rest) :
      Precedes ⟨.number, d :: ds ++ '.' :: e :: es⟩ rest
  | word {c : Char} {cs rest : List Char} (blank : Text.isBlank c = false) (start : Text.isAlphabetic c = true)
      (parts : ∀ d ∈ cs, Text.isWordPart d = true) (ends : EndsRun Text.isWordPart rest) :
      Precedes ⟨wordKind (String.ofList (c :: cs)), c :: cs⟩ rest
  | mark {c : Char} {kind : TokenKind} {rest : List Char} (h : punctuation? c = some kind) : Precedes ⟨kind, [c]⟩ rest
  | invalid {c : Char} {rest : List Char} (blank : Text.isBlank c = false) (digit : c.isDigit = false)
      (letter : Text.isAlphabetic c = false) (mark : punctuation? c = none)
      (slash : ¬(c = '/' ∧ rest.head? = some '/')) : Precedes ⟨.invalid, [c]⟩ rest

theorem exists_precedes_number {c : Char} (hc : c.isDigit = true) (cs : List Char) :
    ∃ rest, cs = numberTail cs ++ rest ∧ Piece.Precedes ⟨.number, c :: numberTail cs⟩ rest := by
  have split := List.takeWhile_append_dropWhile (p := Char.isDigit) (l := cs)
  have digits : ∀ d ∈ c :: cs.takeWhile Char.isDigit, d.isDigit = true :=
    List.forall_mem_cons.mpr ⟨hc, forall_mem_takeWhile _ cs⟩
  have ends := endsRun_dropWhile Char.isDigit cs
  unfold numberTail
  generalize cs.dropWhile Char.isDigit = behind at split ends ⊢
  split
  · next e after =>
    split
    · next he =>
      refine ⟨after.dropWhile Char.isDigit, ?_, ?_⟩
      · rw [List.append_assoc, List.cons_append, List.cons_append, List.takeWhile_append_dropWhile, split]
      · exact .decimal digits (List.forall_mem_cons.mpr ⟨he, forall_mem_takeWhile _ after⟩)
          (endsRun_dropWhile Char.isDigit after)
    · next he =>
      refine ⟨_, by simpa using split.symm, ?_⟩
      rw [List.append_nil]
      refine .whole digits ends fun d rest same => ?_
      cases same
      simpa using he
  · next other =>
    refine ⟨_, by simpa using split.symm, ?_⟩
    rw [List.append_nil]
    exact .whole digits ends fun d rest same => absurd same (other d rest)

theorem Piece.exists_precedes_first (c : Char) (cs : List Char) :
    ∃ rest, c :: cs = (Piece.first c cs).text ++ rest ∧ (Piece.first c cs).Precedes rest := by
  have run : ∀ p : Char → Bool, c :: cs = c :: cs.takeWhile p ++ cs.dropWhile p := fun p =>
    congrArg (c :: ·) List.takeWhile_append_dropWhile.symm
  unfold first
  split
  · next slashes =>
    obtain ⟨rfl, next⟩ := slashes
    cases cs with
    | nil => simp at next
    | cons d cs =>
      obtain rfl : d = '/' := Option.some.inj next
      refine ⟨_, run fun c => !endsLine c, ?_⟩
      have taken : ('/' :: cs).takeWhile (fun c => !endsLine c) = '/' :: cs.takeWhile fun c => !endsLine c := rfl
      rw [taken]
      refine .comment (fun c hc => ?_) (endsRun_dropWhile _ _)
      simpa using forall_mem_takeWhile _ cs c hc
  · next noSlashes =>
    split
    · next blank =>
      exact ⟨_, run _, .blank (List.forall_mem_cons.mpr ⟨blank, forall_mem_takeWhile _ cs⟩) (endsRun_dropWhile _ cs)⟩
    · next noBlank =>
      split
      · next digit =>
        obtain ⟨rest, split, precedes⟩ := exists_precedes_number digit cs
        exact ⟨rest, congrArg (c :: ·) split, precedes⟩
      · next noDigit =>
        split
        · next letter =>
          exact ⟨_, run _, .word (by simpa using noBlank) letter (forall_mem_takeWhile _ cs) (endsRun_dropWhile _ cs)⟩
        · next noLetter =>
          split
          · next kind mark => exact ⟨cs, rfl, .mark mark⟩
          · next mark =>
            exact ⟨cs, rfl, .invalid (by simpa using noBlank) (by simpa using noDigit) (by simpa using noLetter) mark
              noSlashes⟩

theorem isTrivia_wordKind (word : String) : (wordKind word).isTrivia = false := by
  unfold wordKind
  split
  · rfl
  · split <;> rfl

theorem isTrivia_punctuation {c : Char} {kind : TokenKind} (h : punctuation? c = some kind) :
    kind.isTrivia = false ∧ Text.isBlank c = false := by
  unfold punctuation? at h
  split at h <;> cases h <;> exact ⟨rfl, by decide⟩

theorem isBlank_of_isDigit {c : Char} (h : c.isDigit = true) : Text.isBlank c = false := by
  have range : 0x30 ≤ c.toNat ∧ c.toNat ≤ 0x39 := Char.isDigit_iff_toNat.mp h
  simp only [Text.isBlank, Text.inRanges, Text.blankRanges, Bool.and_eq_false_iff, Bool.or_eq_false_iff,
    decide_eq_false_iff_not]
  omega

theorem Piece.Precedes.exists_start {piece : Piece} {rest : List Char} (h : piece.Precedes rest)
    (significant : piece.kind.isTrivia = false) : ∃ c cs, piece.text = c :: cs ∧ Text.isBlank c = false := by
  cases h with
  | comment within ends => cases significant
  | blank all ends => cases significant
  | whole digits ends pointless => exact ⟨_, _, rfl, isBlank_of_isDigit (digits _ (by simp))⟩
  | decimal digits decimals ends => exact ⟨_, _, rfl, isBlank_of_isDigit (digits _ (by simp))⟩
  | word blank start parts ends => exact ⟨_, _, rfl, blank⟩
  | mark h => exact ⟨_, _, rfl, (isTrivia_punctuation h).2⟩
  | invalid blank digit letter mark slash => exact ⟨_, _, rfl, blank⟩

/-- Blanks and comments in front of the given text. A comment takes all of its line. -/
inductive Gap : List Char → List Char → Prop where
  | nil (behind : List Char) : Gap [] behind
  | blank {c : Char} {gap behind : List Char} (h : Text.isBlank c = true) (more : Gap gap behind) :
      Gap (c :: gap) behind
  | comment {line gap behind : List Char} (within : ∀ c ∈ line, endsLine c = false)
      (ends : ∀ c ∈ (gap ++ behind).head?, endsLine c = true) (more : Gap gap behind) :
      Gap ('/' :: '/' :: line ++ gap) behind

theorem Gap.blanks {cs gap behind : List Char} (h : ∀ c ∈ cs, Text.isBlank c = true) (more : Gap gap behind) :
    Gap (cs ++ gap) behind := by
  induction cs with
  | nil => exact more
  | cons c cs ih =>
    obtain ⟨hc, hcs⟩ := List.forall_mem_cons.mp h
    exact .blank hc (ih hcs)

theorem Piece.Precedes.gap {piece : Piece} {rest gap behind : List Char} (h : piece.Precedes rest)
    (trivia : piece.kind.isTrivia = true) (hr : rest = gap ++ behind) (more : Gap gap behind) :
    Gap (piece.text ++ gap) behind := by
  cases h with
  | comment within ends =>
    refine .comment within (fun c hc => ?_) more
    simpa using ends c (hr ▸ hc)
  | blank all ends => exact .blanks all more
  | whole digits ends pointless => cases trivia
  | decimal digits decimals ends => cases trivia
  | word blank start parts ends => rw [isTrivia_wordKind] at trivia; cases trivia
  | mark h => rw [(isTrivia_punctuation h).1] at trivia; cases trivia
  | invalid blank digit letter mark slash => cases trivia

def Cursor.between (read rest : List Char) : Cursor := ⟨rest, byteLength read, Position.start.walk rest read⟩

theorem Cursor.advanceTo_between (read text rest : List Char) :
    (Cursor.between read (text ++ rest)).advanceTo (byteLength read + byteLength text) =
      .between (read ++ text) rest := by
  have moved := (Cursor.between read (text ++ rest)).advanceTo_read text rest rfl
  rw [between] at moved ⊢
  rw [moved, between, Position.walk_append, byteLength_append]

def Piece.token (piece : Piece) (before behind : List Char) : Token :=
  ⟨String.ofList piece.text, piece.kind, Position.start.walk (piece.text ++ behind) before,
    ⟨byteLength before, byteLength before + byteLength piece.text⟩⟩

def Token.endOf (text : List Char) : Token :=
  ⟨"", .endOfInput, Position.start.walk [] text, ⟨byteLength text, byteLength text⟩⟩

/-- What one reading step does: it passes over a gap and gives the word behind it. -/
inductive Scans (read : List Char) : List Char → Token × Cursor → Prop where
  | stop {gap : List Char} (h : Gap gap []) : Scans read gap (.endOf (read ++ gap), .between (read ++ gap) [])
  | word {gap rest : List Char} {piece : Piece} (h : Gap gap (piece.text ++ rest))
      (significant : piece.kind.isTrivia = false) (precedes : piece.Precedes rest) :
      Scans read (gap ++ (piece.text ++ rest))
        (piece.token (read ++ gap) rest, .between (read ++ gap ++ piece.text) rest)

theorem Scans.afterTrivia {read rest : List Char} {piece : Piece} {result : Token × Cursor}
    (precedes : piece.Precedes rest) (trivia : piece.kind.isTrivia = true)
    (h : Scans (read ++ piece.text) rest result) : Scans read (piece.text ++ rest) result := by
  cases h with
  | stop gap =>
    rw [List.append_assoc]
    exact .stop (precedes.gap trivia (List.append_nil rest).symm gap)
  | word gap significant next =>
    rw [List.append_assoc read, ← List.append_assoc piece.text]
    exact .word (precedes.gap trivia rfl gap) significant next

theorem Cursor.scans (read rest : List Char) : Scans read rest (Cursor.between read rest).scan := by
  generalize hc : Cursor.between read rest = c
  fun_induction Cursor.scan c generalizing read rest with
  | case1 c hr =>
    subst hc
    obtain rfl : rest = [] := hr
    have here : Scans read [] (.endOf (read ++ []), .between (read ++ []) []) := .stop (.nil [])
    rwa [List.append_nil] at here
  | case2 c d ds hr piece stop trivia ih =>
    subst hc
    obtain ⟨rest', split, precedes⟩ := Piece.exists_precedes_first d ds
    have split : rest = piece.text ++ rest' := Eq.trans hr split
    subst split
    exact .afterTrivia precedes trivia (ih _ _ (Cursor.advanceTo_between read piece.text rest').symm)
  | case3 c d ds hr piece stop significant =>
    subst hc
    obtain ⟨rest', split, precedes⟩ := Piece.exists_precedes_first d ds
    have split : rest = piece.text ++ rest' := Eq.trans hr split
    subst split
    have here : Scans read ([] ++ (piece.text ++ rest'))
        (piece.token (read ++ []) rest', .between (read ++ [] ++ piece.text) rest') :=
      .word (.nil _) (by simpa using significant) precedes
    rw [List.append_nil, ← Cursor.advanceTo_between] at here
    exact here

/-- The words behind the part of a text that was read, each with the gap in front of it. -/
inductive Laid : List Char → List Char → List Token → Prop where
  | stop {read gap : List Char} (h : Gap gap []) : Laid read gap [.endOf (read ++ gap)]
  | word {read gap rest : List Char} {piece : Piece} {words : List Token} (h : Gap gap (piece.text ++ rest))
      (significant : piece.kind.isTrivia = false) (precedes : piece.Precedes rest)
      (later : Laid (read ++ gap ++ piece.text) rest words) :
      Laid read (gap ++ (piece.text ++ rest)) (piece.token (read ++ gap) rest :: words)

theorem Laid.exists_piece {read rest : List Char} {words : List Token} (h : Laid read rest words) {word : Token}
    (hw : word ∈ words) :
    (∃ (skipped : List Char) (piece : Piece) (behind : List Char), rest = skipped ++ (piece.text ++ behind) ∧
        piece.Precedes behind ∧ piece.kind.isTrivia = false ∧ word = piece.token (read ++ skipped) behind) ∨
      word = .endOf (read ++ rest) := by
  induction h with
  | stop h => exact .inr (List.mem_singleton.mp hw)
  | @word read gap rest piece words before significant precedes later ih =>
    rcases List.mem_cons.mp hw with rfl | hw
    · exact .inl ⟨gap, piece, rest, rfl, precedes, significant, rfl⟩
    · rcases ih hw with ⟨skipped, next, behind, rfl, here, solid, rfl⟩ | rfl
      · exact .inl ⟨gap ++ (piece.text ++ skipped), next, behind, by simp, here, solid, by simp⟩
      · exact .inr (by simp)

theorem Laid.pairwise {R : Token → Token → Prop} {read rest : List Char} {words : List Token}
    (h : Laid read rest words)
    (step : ∀ {before rest : List Char} {piece : Piece} {words : List Token}, piece.kind.isTrivia = false →
      piece.Precedes rest → Laid (before ++ piece.text) rest words →
        ∀ word ∈ words, R (piece.token before rest) word) : words.Pairwise R := by
  induction h with
  | stop h => exact List.pairwise_singleton _ _
  | word before significant precedes later ih => exact List.pairwise_cons.mpr ⟨step significant precedes later, ih⟩

theorem TokenStream.toList_of_next {s t : TokenStream} {token : Token} (h : s.next = some (token, t)) :
    s.toList = token :: t.toList := by
  rw [toList]
  split
  · next none => rw [none] at h; cases h
  · next some => rw [some] at h; cases h; rfl

theorem TokenStream.toList_of_finished {s : TokenStream} (h : s.next = none) : s.toList = [] := by
  rw [toList]
  split
  · rfl
  · next some => rw [some] at h; cases h

theorem Piece.Precedes.ne_endOfInput {piece : Piece} {rest : List Char} (h : piece.Precedes rest) :
    piece.kind ≠ .endOfInput := by
  cases h with
  | word blank start parts ends => exact wordKind_ne_endOfInput
  | mark h => rintro rfl; exact punctuation?_ne_endOfInput h
  | _ => simp

def withoutEnd (words : List Token) : List Token := words.filter fun t => t.kind != .endOfInput

theorem Piece.Precedes.withoutEnd_cons {piece : Piece} {rest : List Char} (h : piece.Precedes rest)
    (before behind : List Char) (words : List Token) :
    withoutEnd (piece.token before behind :: words) = piece.token before behind :: withoutEnd words :=
  List.filter_cons_of_pos (bne_iff_ne.mpr h.ne_endOfInput)

theorem Laid.withoutEnd_append {read rest : List Char} {words : List Token} (h : Laid read rest words) :
    withoutEnd words ++ [.endOf (read ++ rest)] = words := by
  induction h with
  | stop h => rfl
  | word before significant precedes later ih =>
    simp only [List.append_assoc] at ih
    rw [precedes.withoutEnd_cons, List.cons_append, ih]

theorem laid_toList (read rest : List Char) : Laid read rest (TokenStream.toList ⟨.between read rest, false⟩) := by
  have scans := Cursor.scans read rest
  rw [TokenStream.toList_of_next (s := ⟨.between read rest, false⟩) rfl]
  generalize (Cursor.between read rest).scan = result at scans
  cases scans with
  | stop gap =>
    rw [TokenStream.toList_of_finished rfl]
    exact .stop gap
  | @word gap rest piece before significant precedes =>
    obtain ⟨c, cs, text, -⟩ := precedes.exists_start significant
    have goesOn : (piece.kind == .endOfInput) = false := beq_eq_false_iff_ne.mpr precedes.ne_endOfInput
    dsimp only [Piece.token]
    rw [goesOn]
    exact .word before significant precedes (laid_toList _ _)
termination_by rest.length
decreasing_by
  rw [text]
  simp
  omega

theorem laid_tokenize (source : String) : Laid [] source.toList (tokenize source) :=
  laid_toList [] source.toList

end ArmScript
