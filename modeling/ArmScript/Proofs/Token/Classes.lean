import ArmScript.Proofs.Token.Layout

/-!
The kind of a word is that of its spelling, and no word stops where it could go on. Spellings are told apart by
their first character: a letter, a digit, a mark, or a character that starts nothing.
-/
set_option autoImplicit false

namespace ArmScript

/-- A letter, and letters, digits and underscores behind it. -/
def IsName (cs : List Char) : Prop :=
  ∃ c parts, cs = c :: parts ∧ Text.isAlphabetic c = true ∧ ∀ d ∈ parts, Text.isWordPart d = true

def AreDigits (cs : List Char) : Prop := cs ≠ [] ∧ ∀ d ∈ cs, d.isDigit = true

/-- Digits, and maybe a point with digits behind it. -/
def IsNumber (cs : List Char) : Prop :=
  AreDigits cs ∨ ∃ whole decimals, AreDigits whole ∧ AreDigits decimals ∧ cs = whole ++ '.' :: decimals

def punctuation : List (Char × TokenKind) :=
  [('.', .dot), ('=', .equals), ('(', .openParen), (')', .closeParen), ('{', .openBrace), ('}', .closeBrace)]

/-- A character that starts no word in front of the given text. -/
structure StartsNothing (c : Char) (behind : List Char) : Prop where
  blank : Text.isBlank c = false
  letter : Text.isAlphabetic c = false
  digit : c.isDigit = false
  mark : c ∉ punctuation.map Prod.fst
  slashes : ¬(c = '/' ∧ behind.head? = some '/')

/-- The kind of a word as its spelling tells it, and what cannot stand right behind the word. -/
structure Classified (kind : TokenKind) (lexeme : String) (behind : List Char) : Prop where
  robot : kind = .robot ↔ lexeme = "Robot"
  method : ∀ m : Method, kind = .method m ↔ lexeme = m.name
  identifier : kind = .identifier ↔ IsName lexeme.toList ∧ lexeme ≠ "Robot" ∧ ∀ m : Method, lexeme ≠ m.name
  number : kind = .number ↔ IsNumber lexeme.toList
  mark : ∀ c k, (c, k) ∈ punctuation → (kind = k ↔ lexeme.toList = [c])
  invalid : kind = .invalid ↔ ∃ c, lexeme.toList = [c] ∧ StartsNothing c behind
  wordEnds : (kind = .robot ∨ (∃ m, kind = .method m) ∨ kind = .identifier) → EndsRun Text.isWordPart behind
  numberEnds : kind = .number → EndsRun Char.isDigit behind ∧
    ('.' ∉ lexeme.toList → ∀ d after, behind = '.' :: d :: after → d.isDigit = false)

theorem isDigit_of_isAlphabetic {c : Char} (h : Text.isAlphabetic c = true) : c.isDigit = false := by
  cases hd : c.isDigit with
  | false => rfl
  | true =>
    have range : 0x30 ≤ c.toNat ∧ c.toNat ≤ 0x39 := Char.isDigit_iff_toNat.mp hd
    -- the first range of letters lies above the digits
    have first : 0x41 ≤ c.toNat := by
      have head : (decide (0x41 ≤ c.toNat) && _) = true := h
      exact of_decide_eq_true (Bool.and_eq_true_iff.mp head).1
    omega

theorem mem_punctuation_iff {c : Char} {k : TokenKind} : (c, k) ∈ punctuation ↔ punctuation? c = some k := by
  constructor
  · intro h
    simp only [punctuation, List.mem_cons, Prod.mk.injEq, List.not_mem_nil, or_false] at h
    rcases h with ⟨rfl, rfl⟩ | ⟨rfl, rfl⟩ | ⟨rfl, rfl⟩ | ⟨rfl, rfl⟩ | ⟨rfl, rfl⟩ | ⟨rfl, rfl⟩ <;> rfl
  · intro h
    unfold punctuation? at h
    split at h <;> cases h <;> decide

theorem notMem_punctuation_iff {c : Char} : c ∉ punctuation.map Prod.fst ↔ punctuation? c = none := by
  constructor
  · intro h
    cases hk : punctuation? c with
    | none => rfl
    | some k => exact absurd (List.mem_map.mpr ⟨(c, k), mem_punctuation_iff.mpr hk, rfl⟩) h
  · rintro h hc
    obtain ⟨⟨_, k⟩, hm, rfl⟩ := List.mem_map.mp hc
    rw [mem_punctuation_iff.mp hm] at h
    cases h

theorem start_of_punctuation {c : Char} {k : TokenKind} (h : punctuation? c = some k) :
    Text.isAlphabetic c = false ∧ c.isDigit = false := by
  unfold punctuation? at h
  split at h <;> cases h <;> decide

theorem IsName.start {c : Char} {cs : List Char} (h : IsName (c :: cs)) : Text.isAlphabetic c = true := by
  obtain ⟨d, parts, same, letter, -⟩ := h
  cases same
  exact letter

theorem IsNumber.start {c : Char} {cs : List Char} (h : IsNumber (c :: cs)) : c.isDigit = true := by
  rcases h with ⟨-, digits⟩ | ⟨whole, decimals, ⟨nonempty, digits⟩, -, same⟩
  · exact digits c (by simp)
  · cases whole with
    | nil => exact absurd rfl nonempty
    | cons d whole =>
      cases same
      exact digits c (by simp)

theorem isName_robot : IsName "Robot".toList :=
  ⟨'R', ['o', 'b', 'o', 't'], rfl, by decide, List.all_eq_true.mp (by decide)⟩

theorem isName_method (m : Method) : IsName m.name.toList := by
  cases m <;> exact ⟨_, _, rfl, by decide, List.all_eq_true.mp (by decide)⟩

theorem Method.name_ne_robot (m : Method) : m.name ≠ "Robot" := by cases m <;> decide

section WordKind
variable {word : String}

theorem wordKind_eq_robot_iff : wordKind word = .robot ↔ word = "Robot" := by
  unfold wordKind
  split
  · next h => simp [h]
  · next h => split <;> simp [h]

theorem wordKind_eq_method_iff {m : Method} : wordKind word = .method m ↔ word = m.name := by
  unfold wordKind
  split
  · next h => simp [h, m.name_ne_robot.symm]
  · split
    · next n h =>
      obtain rfl : n.name = word := Method.ofName?_eq_some_iff.mp h
      constructor
      · rintro ⟨⟩
        rfl
      · intro same
        rw [Method.name_injective same]
    · next h =>
      constructor
      · rintro ⟨⟩
      · rintro rfl
        simp at h

theorem wordKind_eq_identifier_iff :
    wordKind word = .identifier ↔ word ≠ "Robot" ∧ ∀ m : Method, word ≠ m.name := by
  rw [ne_eq, ← wordKind_eq_robot_iff]
  simp only [ne_eq, ← wordKind_eq_method_iff]
  constructor
  · intro h
    simp [h]
  · rintro ⟨noKeyword, noMethod⟩
    unfold wordKind at noKeyword noMethod ⊢
    split
    · next h => simp [h] at noKeyword
    · next h =>
      simp only [h, if_false] at noMethod
      split
      · next m hm =>
        rw [hm] at noMethod
        exact absurd rfl (noMethod m)
      · rfl

end WordKind

def TokenKind.isWord : TokenKind → Bool
  | .robot | .identifier | .method _ => true
  | _ => false

theorem isWord_wordKind (word : String) : (wordKind word).isWord = true := by
  unfold wordKind
  split
  · rfl
  · split <;> rfl

theorem ne_of_isWord {kind other : TokenKind} (h : kind.isWord = true) (ho : other.isWord = false) :
    kind ≠ other := by
  rintro rfl
  rw [h] at ho
  cases ho

theorem kind_of_punctuation {c : Char} {kind : TokenKind} (h : punctuation? c = some kind) :
    kind.isWord = false ∧ kind ≠ .number ∧ kind ≠ .invalid ∧ kind ≠ .endOfInput := by
  unfold punctuation? at h
  split at h <;> cases h <;> simp [TokenKind.isWord]

theorem punctuation?_injective {c d : Char} {kind : TokenKind} (hc : punctuation? c = some kind)
    (hd : punctuation? d = some kind) : c = d := by
  unfold punctuation? at hc
  split at hc <;> cases hc <;> (unfold punctuation? at hd; split at hd <;> cases hd; rfl)

theorem not_name_of_start {c : Char} {cs : List Char} (h : Text.isAlphabetic c = false) : ¬IsName (c :: cs) := by
  intro name
  rw [name.start] at h
  cases h

theorem not_number_of_start {c : Char} {cs : List Char} (h : c.isDigit = false) : ¬IsNumber (c :: cs) := by
  intro number
  rw [number.start] at h
  cases h

theorem not_reserved {lexeme : String} (h : ¬IsName lexeme.toList) :
    lexeme ≠ "Robot" ∧ ∀ m : Method, lexeme ≠ m.name := by
  constructor
  · rintro rfl
    exact h isName_robot
  · rintro m rfl
    exact h (isName_method m)

section Classified
variable {c : Char} {cs text behind : List Char} {kind : TokenKind}

theorem classified_word (letter : Text.isAlphabetic c = true) (parts : ∀ d ∈ cs, Text.isWordPart d = true)
    (ends : EndsRun Text.isWordPart behind) :
    Classified (wordKind (String.ofList (c :: cs))) (String.ofList (c :: cs)) behind where
  robot := wordKind_eq_robot_iff
  method _ := wordKind_eq_method_iff
  identifier := by
    rw [wordKind_eq_identifier_iff, String.toList_ofList]
    exact (and_iff_right ⟨c, cs, rfl, letter, parts⟩).symm
  number := by
    rw [String.toList_ofList]
    exact iff_of_false (ne_of_isWord (isWord_wordKind _) rfl) (not_number_of_start (isDigit_of_isAlphabetic letter))
  mark d k hd := by
    have mark := mem_punctuation_iff.mp hd
    rw [String.toList_ofList]
    refine iff_of_false (ne_of_isWord (isWord_wordKind _) (kind_of_punctuation mark).1) ?_
    rintro ⟨⟩
    rw [(start_of_punctuation mark).1] at letter
    cases letter
  invalid := by
    rw [String.toList_ofList]
    refine iff_of_false (ne_of_isWord (isWord_wordKind _) rfl) ?_
    rintro ⟨d, ⟨⟩, nothing⟩
    rw [nothing.letter] at letter
    cases letter
  wordEnds _ := ends
  numberEnds h := absurd h (ne_of_isWord (isWord_wordKind _) rfl)

theorem classified_of_not_name (hk : kind.isWord = false) (hn : ¬IsName text)
    (number : kind = .number ↔ IsNumber text) (mark : ∀ c k, punctuation? c = some k → (kind = k ↔ text = [c]))
    (invalid : kind = .invalid ↔ ∃ c, text = [c] ∧ StartsNothing c behind)
    (numberEnds : kind = .number → EndsRun Char.isDigit behind ∧
      ('.' ∉ text → ∀ d after, behind = '.' :: d :: after → d.isDigit = false)) :
    Classified kind (String.ofList text) behind := by
  have noWord : ∀ other : TokenKind, other.isWord = true → kind ≠ other := fun _ ho =>
    (ne_of_isWord ho hk).symm
  rw [← String.toList_ofList (l := text)] at hn number invalid numberEnds
  obtain ⟨noKeyword, noMethod⟩ := not_reserved hn
  refine ⟨iff_of_false (noWord _ rfl) noKeyword, fun m => iff_of_false (noWord _ rfl) (noMethod m),
    iff_of_false (noWord _ rfl) fun name => hn name.1, number, fun c k h => ?_, invalid, ?_, numberEnds⟩
  · rw [String.toList_ofList]
    exact mark c k (mem_punctuation_iff.mp h)
  · rintro (h | ⟨m, h⟩ | h) <;> exact absurd h (noWord _ rfl)

theorem isAlphabetic_of_isDigit (h : c.isDigit = true) : Text.isAlphabetic c = false := by
  cases letter : Text.isAlphabetic c with
  | false => rfl
  | true =>
    rw [isDigit_of_isAlphabetic letter] at h
    cases h

theorem classified_number (number : IsNumber (c :: cs)) (ends : EndsRun Char.isDigit behind)
    (pointless : '.' ∉ c :: cs → ∀ d after, behind = '.' :: d :: after → d.isDigit = false) :
    Classified .number (String.ofList (c :: cs)) behind := by
  have digit := number.start
  refine classified_of_not_name rfl (not_name_of_start (isAlphabetic_of_isDigit digit)) (iff_of_true rfl number)
    (fun d k mark => ?_) ?_ fun _ => ⟨ends, pointless⟩
  · refine iff_of_false (kind_of_punctuation mark).2.1.symm ?_
    rintro ⟨⟩
    rw [(start_of_punctuation mark).2] at digit
    cases digit
  · refine iff_of_false (by simp) ?_
    rintro ⟨d, ⟨⟩, nothing⟩
    rw [nothing.digit] at digit
    cases digit

theorem classified_mark (mark : punctuation? c = some kind) : Classified kind (String.ofList [c]) behind := by
  obtain ⟨letter, digit⟩ := start_of_punctuation mark
  obtain ⟨noWord, noNumber, valid, -⟩ := kind_of_punctuation mark
  refine classified_of_not_name noWord (not_name_of_start letter) (iff_of_false noNumber (not_number_of_start digit))
    (fun d k other => ⟨?_, ?_⟩) (iff_of_false valid ?_) fun h => absurd h noNumber
  · rintro rfl
    rw [punctuation?_injective mark other]
  · rintro ⟨⟩
    exact Option.some.inj (mark.symm.trans other)
  · rintro ⟨d, ⟨⟩, nothing⟩
    rw [notMem_punctuation_iff.mp nothing.mark] at mark
    cases mark

theorem classified_invalid (nothing : StartsNothing c behind) : Classified .invalid (String.ofList [c]) behind := by
  refine classified_of_not_name rfl (not_name_of_start nothing.letter)
    (iff_of_false (by simp) (not_number_of_start nothing.digit)) (fun d k mark => ?_)
    (iff_of_true rfl ⟨c, rfl, nothing⟩) (by simp)
  refine iff_of_false (kind_of_punctuation mark).2.2.1.symm ?_
  rintro ⟨⟩
  rw [notMem_punctuation_iff.mp nothing.mark] at mark
  cases mark

theorem classified_endOfInput : Classified .endOfInput "" [] := by
  have noName : ¬IsName [] := by rintro ⟨c, parts, ⟨⟩, -⟩
  have noNumber : ¬IsNumber [] := by
    rintro (⟨nonempty, -⟩ | ⟨whole, decimals, -, -, same⟩)
    · exact nonempty rfl
    · simp at same
  change Classified .endOfInput (String.ofList []) []
  exact classified_of_not_name rfl noName (iff_of_false (by simp) noNumber)
    (fun c k mark => iff_of_false (kind_of_punctuation mark).2.2.2.symm (by simp))
    (iff_of_false (by simp) (by simp)) (by simp)

end Classified

theorem Piece.Precedes.classified {piece : Piece} {rest : List Char} (h : piece.Precedes rest)
    (significant : piece.kind.isTrivia = false) : Classified piece.kind (String.ofList piece.text) rest := by
  cases h with
  | comment within ends => cases significant
  | blank all ends => cases significant
  | whole digits ends pointless =>
    exact classified_number (.inl ⟨by simp, digits⟩) ends fun _ d after => pointless d after
  | @decimal d e ds es _ digits decimals ends =>
    refine classified_number (.inr ⟨d :: ds, e :: es, ⟨by simp, digits⟩, ⟨by simp, decimals⟩, rfl⟩) ends ?_
    exact fun point => absurd (by simp) point
  | word blank start parts ends => exact classified_word start parts ends
  | mark h => exact classified_mark h
  | invalid blank digit letter mark slash =>
    exact classified_invalid ⟨blank, letter, digit, notMem_punctuation_iff.mpr mark, slash⟩

/-- Every word of a text has the kind of its spelling and goes on as far as it can. -/
theorem classified_of_mem_tokenize {source : String} {word : Token} (h : word ∈ tokenize source) :
    ∃ before behind, source.toList = before ++ word.lexeme.toList ++ behind ∧
      word.span = ⟨byteLength before, byteLength (before ++ word.lexeme.toList)⟩ ∧
      Classified word.kind word.lexeme behind := by
  rcases (laid_tokenize source).exists_piece h with
    ⟨before, piece, behind, split, precedes, significant, rfl⟩ | rfl
  · refine ⟨before, behind, ?_, ?_, precedes.classified significant⟩
    · simp [Piece.token, split]
    · simp [Piece.token]
  · exact ⟨source.toList, [], by simp [Token.endOf], by simp [Token.endOf], classified_endOfInput⟩

/-- A name behind a character that starts none, and in front of a number. -/
theorem classified_name_between :
    (⟨"ñandú12", .identifier, ⟨1, 2⟩, ⟨1, 10⟩⟩ : Token) ∈ tokenize "_ñandú12.5.3" ∧
      ∃ before behind, "_ñandú12.5.3".toList = before ++ "ñandú12".toList ++ behind ∧
        (⟨1, 10⟩ : Span) = ⟨byteLength before, byteLength (before ++ "ñandú12".toList)⟩ ∧
        Classified .identifier "ñandú12" behind := by
  have h : (⟨"ñandú12", .identifier, ⟨1, 2⟩, ⟨1, 10⟩⟩ : Token) ∈ tokenize "_ñandú12.5.3" := by decide +kernel
  exact ⟨h, classified_of_mem_tokenize h⟩

end ArmScript
