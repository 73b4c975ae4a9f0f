import ArmScript.Proofs.Analysis.Renaming
import ArmScript.Proofs.Token.Spread

set_option autoImplicit false

namespace ArmScript

def Recast.unplaced : Recast := { unspanned with position := fun _ => .start, position_start := rfl }

def Token.ofSpelling (spelling : TokenKind × String) : Token := ⟨spelling.2, spelling.1, .start, ⟨0, 0⟩⟩

theorem Recast.token_unplaced (t : Token) : unplaced.token t = .ofSpelling t.spelling := by
  by_cases h : t.kind = .identifier <;> simp [token, unplaced, unspanned, ofNames, Token.ofSpelling, Token.spelling, h]

def Diagnostic.kind (d : Diagnostic) : Stage × Option Code := (d.stage, d.code)

/-- A run goes by the kinds and spellings of the words, not by their places. -/
theorem Session.read_of_spelling {tokens others : List Token}
    (same : tokens.map Token.spelling = others.map Token.spelling) :
    let first := Session.empty.read tokens
    let second := Session.empty.read others
    first.statements = second.statements ∧
      first.session.robots.robots.map Robot.name = second.session.robots.robots.map Robot.name ∧
      first.session.diagnostics.map Diagnostic.kind = second.session.diagnostics.map Diagnostic.kind := by
  -- both runs are compared with the one over the words without their places
  have bare : ∀ words : List Token, words.map Recast.unplaced.token = (words.map Token.spelling).map Token.ofSpelling :=
    fun words => by
      rw [List.map_map]
      exact List.map_congr_left fun t _ => Recast.token_unplaced t
  have words : tokens.map Recast.unplaced.token = others.map Recast.unplaced.token := by rw [bare, same, bare]
  have names : ∀ t : RobotTable, (Recast.unplaced.table t).robots.map Robot.name = t.robots.map Robot.name :=
    fun t => List.map_map
  have kinds : ∀ ds : List Diagnostic, (ds.map Recast.unplaced.outline).map Diagnostic.kind = ds.map Diagnostic.kind :=
    fun ds => List.map_map
  obtain ⟨count, found, robots⟩ := Recast.unplaced.read_session .empty .empty rfl tokens
  obtain ⟨count', found', robots'⟩ := Recast.unplaced.read_session .empty .empty rfl others
  rw [words] at count found robots
  refine ⟨count.symm.trans count', ?_, ?_⟩
  · rw [← names, robots.symm.trans robots', names]
  · exact (kinds _).symm.trans ((congrArg (List.map Diagnostic.kind) (found.symm.trans found')).trans (kinds _))

/-- The words of a script, invalid ones included, written out again with any blanks between them, are read as the same
words. So a run over them counts the same sentences, declares the same names, and finds problems of the same stages and
codes in the same order. -/
theorem tokenize_spread (source : String) {gaps : List String} (apart : ∀ gap ∈ gaps, IsBlankText gap) :
    let words := withoutEnd (tokenize source)
    let text := spread (words.map Token.lexeme) gaps
    let first := Session.empty.read (tokenize source)
    let second := Session.empty.read (tokenize text)
    (tokenize text).map Token.spelling = words.map Token.spelling ++ [(.endOfInput, "")] ∧
      second.statements = first.statements ∧
      second.session.robots.robots.map Robot.name = first.session.robots.robots.map Robot.name ∧
      second.session.diagnostics.map Diagnostic.kind = first.session.diagnostics.map Diagnostic.kind := by
  intro words text first second
  have laid := laid_tokenize source
  obtain ⟨left, again, same⟩ := laid.exists_spread apart []
  have read : tokenize text = left := tokenize_of_laid again
  rw [← read] at same
  have split := congrArg (List.map Token.spelling) laid.withoutEnd_append
  rw [List.map_append] at split
  exact ⟨same.trans split.symm, Session.read_of_spelling same⟩

/-- Slashes, a point and an underscore that would belong together if they touched, each behind another blank. -/
theorem tokenize_spread_apart :
    let source := "Robot r1 r/1.x_/_/ .5Robot r1"
    let gaps := ["\r", "\n\r\n", "\u2003", "\t \u0085"]
    (∀ gap ∈ gaps, IsBlankText gap) ∧
      (tokenize (spread ((withoutEnd (tokenize source)).map Token.lexeme) gaps)).map Token.spelling =
        (withoutEnd (tokenize source)).map Token.spelling ++ [(.endOfInput, "")] := by
  have apart : ∀ gap ∈ ["\r", "\n\r\n", "\u2003", "\t \u0085"], IsBlankText gap := by decide +kernel
  exact ⟨apart, (tokenize_spread _ apart).1⟩

end ArmScript
