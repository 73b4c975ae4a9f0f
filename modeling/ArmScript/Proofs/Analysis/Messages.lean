import ArmScript.Proofs.Analysis.Spans
import ArmScript.Proofs.Script.Kinds
import ArmScript.Proofs.Text.Printable
import ArmScript.Proofs.Token.Classes

set_option autoImplicit false

namespace ArmScript
open Text

def Diagnostic.texts (d : Diagnostic) : List String := d.message :: d.text :: d.help.toList ++ d.labels.map Label.text

/-- The parts of a diagnostic that are put into its texts are plain. -/
structure Diagnostic.Plain (d : Diagnostic) : Prop where
  message : isPlain d.message = true
  help : ∀ help ∈ d.help, isPlain help = true
  labels : ∀ label ∈ d.labels, isPlain label.text = true

section Parts

@[simp]
theorem Position.isPlain_text (p : Position) : isPlain p.text = true := by
  have colon : isPlain ":" = true := by decide
  simp [Position.text, toString, colon]

@[simp]
theorem Method.isPlain_name (m : Method) : isPlain m.name = true := by cases m <;> decide

@[simp]
theorem Wanted.isPlain_text (wanted : Wanted) : isPlain wanted.text = true := by cases wanted <;> decide

@[simp]
theorem Stage.isPlain_text (stage : Stage) : isPlain stage.text = true := by cases stage <;> decide

@[simp]
theorem Code.isPlain_text (c : Code) : isPlain c.text = true := by cases c <;> decide

@[simp]
theorem Code.isPlain_description (c : Code) : isPlain c.description = true := by cases c <;> decide

@[simp]
theorem TokenKind.isPlain_text (kind : TokenKind) : isPlain kind.text = true := by
  cases kind with
  | method m =>
    simp +decide [TokenKind.text, toString]
  | _ => decide

@[simp]
theorem ValueRange.isPlain_text (r : ValueRange) : isPlain r.text = true := by
  have unbounded : isPlain "..+∞)" = true := by decide +kernel
  unfold ValueRange.text
  split <;> simp +decide [toString, unbounded]

@[simp]
theorem ValueRange.isPlain_advice (r : ValueRange) : isPlain r.advice = true := by
  unfold ValueRange.advice
  split <;> simp +decide [toString]

end Parts

section Words

theorem isPrintable_of_punctuation {c : Char} {kind : TokenKind} (h : punctuation? c = some kind) :
    isPrintable c = true := by
  unfold punctuation? at h
  split at h <;> cases h <;> decide

theorem Piece.Precedes.printable {piece : Piece} {rest : List Char} (h : piece.Precedes rest)
    (significant : piece.kind.isTrivia = false) (valid : piece.kind ≠ .invalid) :
    ∀ c ∈ piece.text, isPrintable c = true := by
  have digits : ∀ {cs : List Char}, (∀ d ∈ cs, d.isDigit = true) → ∀ d ∈ cs, isPrintable d = true :=
    fun all d hd => isPrintable_of_isDigit (all d hd)
  cases h with
  | comment within ends => cases significant
  | blank all ends => cases significant
  | whole all ends pointless => exact digits all
  | decimal all decimals ends =>
    exact List.forall_mem_append.mpr ⟨digits all, List.forall_mem_cons.mpr ⟨by decide, digits decimals⟩⟩
  | word blank letter parts ends =>
    exact List.forall_mem_cons.mpr
      ⟨isPrintable_of_isAlphabetic letter, fun d hd => isPrintable_of_isWordPart (parts d hd)⟩
  | mark mark => exact List.forall_mem_singleton.mpr (isPrintable_of_punctuation mark)
  | invalid => exact absurd rfl valid

/-- Only a character that starts no word may not print. -/
theorem isPlain_lexeme {source : String} {word : Token} (h : word ∈ tokenize source) (valid : word.kind ≠ .invalid) :
    isPlain word.lexeme = true := by
  rcases (laid_tokenize source).exists_piece h with ⟨_, piece, _, -, precedes, significant, rfl⟩ | rfl
  · exact isPlain_ofList (precedes.printable significant valid)
  · rfl

theorem Token.isPlain_describe {t : Token} (plain : isPlain t.lexeme = true) : isPlain t.describe = true := by
  unfold describe
  split <;> simp +decide [toString, plain]

end Words

section Diagnostics

theorem Diagnostic.Plain.isPlain_of_mem_texts {d : Diagnostic} (plain : d.Plain) :
    ∀ text ∈ d.texts, isPlain text = true := by
  have text : isPlain d.text = true := by
    unfold Diagnostic.text
    split <;> simp +decide [toString, plain.message]
  simp only [texts, List.forall_mem_cons, List.forall_mem_append, List.forall_mem_map]
  exact ⟨⟨plain.message, text, fun help hh => plain.help help (Option.mem_toList.mp hh)⟩, plain.labels⟩

theorem plain_coded {code : Code} {position : Position} {message label : String} {span : Span} {help : Option String}
    (hm : isPlain message = true) (hl : isPlain label = true) (hh : ∀ text ∈ help, isPlain text = true) :
    (Diagnostic.coded code position message span label help).Plain where
  message := hm
  help := hh
  labels := List.forall_mem_singleton.mpr hl

theorem Diagnostic.Plain.withSecondaryLabel {d : Diagnostic} {span : Span} {label : String} (plain : d.Plain)
    (hl : isPlain label = true) : (d.withSecondaryLabel span label).Plain where
  message := plain.message
  help := plain.help
  labels := List.forall_mem_append.mpr ⟨plain.labels, List.forall_mem_singleton.mpr hl⟩

theorem isPlain_repeatHelp {robot : Token} (plain : isPlain robot.lexeme = true) :
    isPlain (repeatHelp robot) = true := by
  simp +decide [repeatHelp, toString, plain]

theorem isPlain_valueHelp {robot : Token} (plain : isPlain robot.lexeme = true) (method : Method) :
    isPlain (valueHelp robot method) = true := by
  unfold valueHelp
  split
  · exact isPlain_repeatHelp plain
  · simp +decide [toString, plain]

theorem plain_unexpected {code : Code} {wanted : Wanted} {found : Token} {help : Option String}
    (plain : isPlain found.lexeme = true) (hh : ∀ text ∈ help, isPlain text = true) :
    (unexpectedDiagnostic code wanted found help).Plain := by
  refine plain_coded ?_ ?_ hh
  · simp +decide [toString, Token.isPlain_describe plain]
  · simp +decide [toString]

theorem isPlain_some {text : String} (plain : isPlain text = true) : ∀ help ∈ some text, isPlain help = true := by
  rintro _ ⟨⟩
  exact plain

theorem Token.plain_invalidDiagnostic (t : Token) : t.invalidDiagnostic.Plain := by
  refine plain_coded ?_ (Code.isPlain_description _) (isPlain_some (by decide +kernel))
  simp +decide [toString]

theorem Fault.plain {cause : Fault} (words : ∀ w ∈ cause.words, isPlain w.lexeme = true) : cause.diagnostic.Plain := by
  cases cause with
  | unexpected wanted found =>
    have plain : isPlain found.lexeme = true := words found (by simp [Fault.words])
    cases wanted with
    | statement => exact plain_unexpected plain (isPlain_some (by decide +kernel))
    | _ => exact plain_unexpected plain nofun
  | unknownMethod found =>
    exact plain_unexpected (words found (by simp [Fault.words])) (isPlain_some (by decide +kernel))
  | badHeader robot wanted found =>
    have help := isPlain_repeatHelp (words robot (by simp [Fault.words]))
    exact plain_unexpected (words found (by simp [Fault.words])) (isPlain_some help)
  | missingValue robot method name =>
    have help := isPlain_valueHelp (words robot (by simp [Fault.words])) method
    refine plain_coded ?_ (Code.isPlain_description _) (isPlain_some help)
    simp +decide [toString]
  | unexpectedValue robot method found =>
    have plain : isPlain robot.lexeme = true := words robot (by simp [Fault.words])
    refine plain_coded ?_ (Code.isPlain_description _) (isPlain_some ?_) <;> simp +decide [toString, plain]
  | strayBrace brace => exact plain_coded (by decide +kernel) (by decide +kernel) nofun
  | unclosedBlock brace stop =>
    refine Diagnostic.Plain.withSecondaryLabel (plain_coded ?_ ?_ (isPlain_some ?_)) ?_ <;> decide +kernel

theorem DuplicateRobot.plain {d : DuplicateRobot} (name : isPlain d.duplicate.name = true) : d.diagnostic.Plain := by
  refine Diagnostic.Plain.withSecondaryLabel (plain_coded ?_ (Code.isPlain_description _) (isPlain_some ?_)) ?_
  · simp +decide [message, toString, name]
  · decide +kernel
  · decide +kernel

theorem plain_checkArgument {method : Method} {range : ValueRange} {argument : Token} {fault : CallFault}
    (plain : isPlain argument.lexeme = true) (h : checkArgument method range argument = some fault) :
    fault.diagnostic.Plain := by
  unfold checkArgument at h
  split at h
  · cases h
    refine plain_coded ?_ (Code.isPlain_description _) (isPlain_some (by decide +kernel))
    simp +decide [toString, plain]
  · split at h <;> cases h
    refine plain_coded ?_ (Code.isPlain_description _) (isPlain_some range.isPlain_advice)
    simp +decide [toString, plain]

theorem plain_checkCall {t : RobotTable} {robot : Token} {method : Method} {argument : Option Token}
    (name : isPlain robot.lexeme = true) (value : ∀ number ∈ argument, isPlain number.lexeme = true) :
    ∀ fault ∈ t.checkCall robot method argument, fault.diagnostic.Plain := by
  unfold RobotTable.checkCall
  refine List.forall_mem_append.mpr ⟨?_, ?_⟩
  · split
    · exact List.forall_mem_nil _
    · refine List.forall_mem_singleton.mpr (plain_coded ?_ (Code.isPlain_description _) (isPlain_some ?_)) <;>
        simp +decide [toString, name]
  · split
    · next number range =>
      intro fault found
      exact plain_checkArgument (value _ rfl) (Option.mem_toList.mp found)
    · exact List.forall_mem_nil _

theorem Event.plain {e : Event} (words : ∀ w ∈ e.words, isPlain w.lexeme = true) (t : RobotTable) :
    ∀ d ∈ e.diagnostics t, d.Plain := by
  intro d hd
  cases e with
  | declaration name =>
    simp only [diagnostics] at hd
    split at hd
    · cases hd
    · next duplicate again =>
      cases List.mem_singleton.mp hd
      refine DuplicateRobot.plain ?_
      rw [RobotTable.duplicate_of_declare again]
      exact words name (List.mem_singleton_self _)
  | call robot method argument =>
    obtain ⟨fault, found, rfl⟩ := List.mem_map.mp hd
    obtain ⟨name, value⟩ := List.forall_mem_cons.mp words
    exact plain_checkCall name (fun number hn => value number (Option.mem_toList.mpr hn)) fault found
  | fault cause recovery =>
    cases List.mem_singleton.mp hd
    exact Fault.plain words
  | opened brace => cases hd
  | closed brace => cases hd

end Diagnostics

/-- Whatever characters a script has, each text of each of its diagnostics is one line: all of its characters print, so
none is a control or ends a line. -/
theorem texts_of_diagnostics_print (source : String) :
    ∀ d ∈ (analyze source).diagnostics, ∀ text ∈ d.texts, ∀ c ∈ text.toList,
      isPrintable c = true ∧ isControl c = false ∧ isLineBreak c = false := by
  intro d hd text ht c hc
  have plain : d.Plain := by
    rw [diagnostics_analyze] at hd
    rcases List.mem_append.mp hd with invalid | added
    · obtain ⟨word, -, rfl⟩ := List.mem_map.mp invalid
      exact word.plain_invalidDiagnostic
    · rw [Session.added_eq] at added
      obtain ⟨earlier, e, later, split, shown⟩ := exists_of_mem_collect added
      have read : e ∈ (Script.ofTokens (tokenize source)).read := by simp [split]
      refine Event.plain (fun word hw => ?_) _ d shown
      obtain ⟨member, valid⟩ := (Script.within_ofTokens (endOf_mem_tokenize source) rfl).place
        (Script.mem_of_mem_words read hw)
      exact isPlain_lexeme member valid
  have prints : isPrintable c = true := List.all_eq_true.mp (plain.isPlain_of_mem_texts text ht) c hc
  exact ⟨prints, isControl_eq_false prints, isLineBreak_eq_false prints⟩

theorem texts_of_diagnostics_print_bell :
    let d := Token.invalidDiagnostic ⟨"\x07", .invalid, ⟨1, 1⟩, ⟨0, 1⟩⟩
    d ∈ (analyze "\x07").diagnostics ∧ d.message = "unexpected character `\\u\x7b7\x7d`" ∧
      isPrintable '7' = true ∧ isControl '7' = false ∧ isLineBreak '7' = false := by
  intro d
  have found : d ∈ (analyze "\x07").diagnostics := by decide +kernel
  have shown : d.message = "unexpected character `\\u\x7b7\x7d`" := by decide +kernel
  have inside : '7' ∈ d.message.toList := by decide +kernel
  exact ⟨found, shown, texts_of_diagnostics_print _ d found _ List.mem_cons_self _ inside⟩

end ArmScript
