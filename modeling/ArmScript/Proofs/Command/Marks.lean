import ArmScript.Command.Failure
import ArmScript.Proofs.Analysis.Anchors

set_option autoImplicit false

namespace ArmScript

def Label.mark (l : Label) : Mark := ⟨l.span.start, l.span.stop - l.span.start, l.text, l.isPrimary⟩

def Mark.shown (m : Mark) (source : String) : ByteArray := source.toByteArray.extract m.offset (m.offset + m.length)

/-- A mark lies in a text and cuts none of its characters. -/
structure Mark.Fits (m : Mark) (source : String) : Prop where
  start : (String.Pos.Raw.mk m.offset).IsValid source
  stop : (String.Pos.Raw.mk (m.offset + m.length)).IsValid source
  within : m.offset + m.length ≤ source.utf8ByteSize

theorem Label.mark_of_word {l : Label} {source : String} {word : Token} (hw : word ∈ tokenize source)
    (span : l.span = word.span) :
    l.span.start ≤ l.span.stop ∧ l.mark.Fits source ∧ l.mark.shown source = word.lexeme.toByteArray := by
  have placed : ∃ before behind, source.toList = before ++ word.lexeme.toList ++ behind ∧
      word.span = ⟨byteLength before, byteLength (before ++ word.lexeme.toList)⟩ := by
    rcases (laid_tokenize source).exists_piece hw with ⟨before, piece, behind, split, -, -, rfl⟩ | rfl
    · exact ⟨before, behind, by simpa [Piece.token] using split, by simp [Piece.token]⟩
    · exact ⟨source.toList, [], by simp [Token.endOf], by simp [Token.endOf]⟩
  obtain ⟨before, behind, split, place⟩ := placed
  rw [place] at span
  have forward : l.span.start ≤ l.span.stop := by simp [span]
  have start : l.mark.offset = byteLength before := congrArg Span.start span
  have stop : l.mark.offset + l.mark.length = byteLength (before ++ word.lexeme.toList) :=
    (Nat.add_sub_of_le forward).trans (congrArg Span.stop span)
  have last := isValid_byteLength split
  refine ⟨forward, ⟨?_, ?_, ?_⟩, ?_⟩
  · rw [start]
    rw [List.append_assoc] at split
    exact isValid_byteLength split
  · rwa [stop]
  · rw [stop]
    exact last.le_rawEndPos
  · rw [Mark.shown, stop, start]
    exact extract_toByteArray split

theorem mapM_mark? {labels : List Label} (forward : ∀ l ∈ labels, l.span.start ≤ l.span.stop) :
    labels.mapM Label.mark? = some (labels.map Label.mark) := by
  induction labels with
  | nil => rfl
  | cons l labels ih =>
    obtain ⟨first, others⟩ := List.forall_mem_cons.mp forward
    have marked : l.mark? = some l.mark := by
      simp only [Label.mark?, Span.length?, if_pos first]
      rfl
    rw [List.mapM_cons, marked, ih others]
    rfl

theorem Diagnostic.PointsAt.exists_span {d : Diagnostic} {words : List Token} {word : Token} (h : d.PointsAt words word)
    {l : Label} (hl : l ∈ d.labels) : ∃ other ∈ words, l.span = other.span ∧ (l.isPrimary = true → other = word) := by
  obtain ⟨text, others, labels, explain⟩ := h.labels
  rw [labels] at hl
  rcases List.mem_cons.mp hl with rfl | further
  · exact ⟨word, h.member, rfl, fun _ => rfl⟩
  · have own := explain l further
    have secondary : ∀ other : Token, l.isPrimary = true → other = word := by simp [own.secondary]
    rcases own.subject with ⟨-, first, again, span⟩ | ⟨-, brace, member, -, span⟩
    · exact ⟨first, again.order.subset List.mem_cons_self, span, secondary first⟩
    · exact ⟨brace, member, span, secondary brace⟩

theorem exists_words_of_labels {source : String} {d : Diagnostic} (h : d ∈ (analyze source).diagnostics) :
    ∃ word, d.PointsAt (tokenize source) word ∧
      ∀ l ∈ d.labels, ∃ other ∈ tokenize source, l.span = other.span ∧ (l.isPrimary = true → other = word) := by
  have laid := laid_tokenize source
  rw [diagnostics_analyze] at h
  rcases List.mem_append.mp h with invalid | added
  · obtain ⟨word, hw, rfl⟩ := List.mem_map.mp invalid
    obtain ⟨member, kind⟩ := List.mem_filter.mp hw
    have points : word.invalidDiagnostic.PointsAt (tokenize source) word := pointsAt_coded member (beq_iff_eq.mp kind)
    exact ⟨word, points, fun _ => points.exists_span⟩
  · have last := List.mem_of_getLast? laid.getLast?_eq
    obtain ⟨word, points⟩ := exists_pointsAt_added rfl laid.pairwise_span last rfl d added
    exact ⟨word, points, fun _ => points.exists_span⟩

/-- The problems of a script are shown one by one in their order. Each is shown with all of its labels as marks that lie
in the script and cut no character, the primary one with the word that the problem points at, and under a code with the
stage that the code has. -/
theorem reportables_of_analyze (name source : String) :
    let ds := (analyze source).diagnostics
    (Failure.analysis name source ds).reportables = ds.map (fun d => .finding d source) ∧
      ∀ d ∈ ds, ∃ word code, d.PointsAt (analyze source).tokens word ∧
        (Reportable.finding d source).marks? = some (d.labels.map Label.mark) ∧
        (∀ l ∈ d.labels, l.span.start ≤ l.span.stop ∧ l.mark.Fits source ∧
          (l.isPrimary = true → l.mark.shown source = word.lexeme.toByteArray)) ∧
        d.code = some code ∧ code.stage = d.stage ∧
        (Reportable.finding d source).code = "robolang::" ++ code.stage.text ++ "::" ++ code.text := by
  intro ds
  refine ⟨rfl, fun d hd => ?_⟩
  obtain ⟨word, points, labels⟩ := exists_words_of_labels hd
  obtain ⟨code, coded, stage, -⟩ := points.code
  have marked : ∀ l ∈ d.labels, l.span.start ≤ l.span.stop ∧ l.mark.Fits source ∧
      (l.isPrimary = true → l.mark.shown source = word.lexeme.toByteArray) := fun l hl => by
    obtain ⟨other, member, span, primary⟩ := labels l hl
    obtain ⟨forward, fits, shown⟩ := Label.mark_of_word member span
    exact ⟨forward, fits, fun first => primary first ▸ shown⟩
  refine ⟨word, code, by rwa [tokens_analyze], mapM_mark? fun l hl => (marked l hl).1, marked, coded, stage, ?_⟩
  rw [stage]
  simp [Reportable.code, coded, toString]

/-- A block that is left open behind a character of two bytes that starts no word. Its two labels are the end of the
script, which is empty, and the brace. -/
theorem reportables_of_open_block :
    let source := "r.repetir(2) ¿ \x7b"
    let d := Fault.diagnostic
      (.unclosedBlock ⟨"\x7b", .openBrace, ⟨1, 16⟩, ⟨16, 17⟩⟩ ⟨"", .endOfInput, ⟨1, 17⟩, ⟨17, 17⟩⟩)
    d ∈ (analyze source).diagnostics ∧
      (Reportable.finding d source).marks? =
        some [⟨17, 0, "expected `\x7d`", true⟩, ⟨16, 1, "block opened here", false⟩] ∧
      ∀ l ∈ d.labels, l.mark.Fits source := by
  intro source d
  have member : d ∈ (analyze source).diagnostics := by decide +kernel
  obtain ⟨word, code, -, marks, fits, -⟩ := (reportables_of_analyze "open" source).2 d member
  exact ⟨member, marks, fun l hl => (fits l hl).2.1⟩

end ArmScript
