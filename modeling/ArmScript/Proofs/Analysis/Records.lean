import ArmScript.Proofs.Analysis.Spans
import Mathlib.Data.List.Basic

/-!
The log of an analysis agrees with its result. Numbers are noted down at four points, each with words, sentences, robots
and problems counted in a way of its own, and still they are those of the result and of the log itself. The other lines
stand in groups: a declared robot behind its declaration, a call in front of its check.
-/
set_option autoImplicit false

namespace ArmScript

def notesOf (message : String) (lines : List LogLine) : List LogLine := lines.filter fun l => l.message == message

def LogLine.isRecovering (l : LogLine) : Bool :=
  l.message == "Recovering from syntax error" || l.message == "Recovering from malformed repeat header"

def Record.hasMessage (message : String) (note : Record) : Bool := note.line.message == message

def Record.recovered? : Record → Option Diagnostic
  | .recovering _ diagnostic => some diagnostic
  | _ => none

section Groups

def Record.isAlone : Record → Bool
  | .declared _ _ | .call _ _ _ | .checking _ _ _ => false
  | _ => true

def Record.Fits (before after : List Record) : Record → Prop
  | .declared robot _ => ∃ front, before = front ++ [.declaration robot]
  | .call robot method _ => ∃ argument rest, after = .checking robot method argument :: rest
  | .checking robot method _ => ∃ front line, before = front ++ [.call robot method line]
  | _ => True

/-- Notes one by one, but for robots that are declared and calls that are checked. -/
inductive Grouped : List Record → Prop
  | nil : Grouped []
  | alone {note : Record} {rest : List Record} (single : note.isAlone = true) (more : Grouped rest) :
    Grouped (note :: rest)
  | declared {robot : String} {position : Position} {rest : List Record} (more : Grouped rest) :
    Grouped (.declaration robot :: .declared robot position :: rest)
  | checked {robot : String} {method : Method} {line : Nat} {argument : Option String} {rest : List Record}
    (more : Grouped rest) : Grouped (.call robot method line :: .checking robot method argument :: rest)

variable {before after notes more : List Record} {note : Record}

theorem Record.fits_of_isAlone (single : note.isAlone = true) : note.Fits before after := by
  cases note with
  | declared | call | checking => cases single
  | _ => trivial

theorem Record.Fits.cons (h : note.Fits before after) (first : Record) : note.Fits (first :: before) after := by
  cases note with
  | declared robot position =>
    obtain ⟨front, rfl⟩ := h
    exact ⟨first :: front, rfl⟩
  | call robot method line => exact h
  | checking robot method argument =>
    obtain ⟨front, line, rfl⟩ := h
    exact ⟨first :: front, line, rfl⟩
  | _ => trivial

theorem Grouped.append (h : Grouped notes) (behind : Grouped more) : Grouped (notes ++ more) := by
  induction h with
  | nil => exact behind
  | alone single _ ih => exact .alone single ih
  | declared _ ih => exact .declared ih
  | checked _ ih => exact .checked ih

/-- Wherever grouped notes are split, the note there has its own at its side. -/
theorem Grouped.fits (h : Grouped notes) (split : notes = before ++ note :: after) : note.Fits before after := by
  induction h generalizing before with
  | nil => simp at split
  | alone single _ ih =>
    cases before with
    | nil =>
      cases split
      exact Record.fits_of_isAlone single
    | cons _ before =>
      cases split
      exact (ih rfl).cons _
  | declared _ ih =>
    match before with
    | [] =>
      cases split
      trivial
    | [_] =>
      cases split
      exact ⟨[], rfl⟩
    | _ :: _ :: before =>
      cases split
      exact ((ih rfl).cons _).cons _
  | checked _ ih =>
    match before with
    | [] =>
      cases split
      exact ⟨_, _, rfl⟩
    | [_] =>
      cases split
      exact ⟨[], _, rfl⟩
    | _ :: _ :: before =>
      cases split
      exact ((ih rfl).cons _).cons _

end Groups

def sentenceMessages : List String :=
  ["Robot declaration", "Robot declared", "Method call", "Validating call", "Recovering from syntax error",
    "Recovering from malformed repeat header"]

/-- What one event leaves: the table behind it and the notes about it. -/
inductive Noted (t : RobotTable) : Event → RobotTable → List Record → Prop
  | declared (name : Token) : Noted t (.declaration name) ⟨t.robots ++ [name.robot]⟩
      [.declaration name.lexeme, .declared name.lexeme name.position]
  | again (name : Token) : Noted t (.declaration name) t [.declaration name.lexeme]
  | call (robot : Token) (method : Method) (argument : Option Token) : Noted t (.call robot method argument) t
      [.call robot.lexeme method robot.position.line, .checking robot.lexeme method (argument.map Token.lexeme)]
  | recovering (cause : Fault) (recovery : Recovery) : Noted t (.fault cause (some recovery)) t
      [.recovering recovery cause.diagnostic]
  | fault (cause : Fault) : Noted t (.fault cause none) t []
  | opened (brace : Token) : Noted t (.opened brace) t []
  | closed (brace : Token) : Noted t (.closed brace) t []

theorem Event.noted (e : Event) (t : RobotTable) : Noted t e (t.after e) (e.records t) := by
  cases e with
  | declaration name =>
    simp only [records, RobotTable.after, RobotTable.declare]
    cases t.robot? name.robot.name with
    | none => exact .declared name
    | some first => exact .again name
  | call robot method argument => exact .call robot method argument
  | fault cause recovery =>
    cases recovery with
    | none => exact .fault cause
    | some recovery => exact .recovering cause recovery
  | opened brace => exact .opened brace
  | closed brace => exact .closed brace

section Event
variable {t behind : RobotTable} {e : Event} {notes : List Record}

theorem Noted.grouped (h : Noted t e behind notes) : Grouped notes := by
  cases h with
  | declared name => exact .declared .nil
  | call robot method argument => exact .checked .nil
  | again | recovering => exact .alone rfl .nil
  | _ => exact .nil

theorem Noted.message (h : Noted t e behind notes) : ∀ note ∈ notes, note.line.message ∈ sentenceMessages := by
  cases h with
  | recovering cause recovery => cases recovery <;> simp [sentenceMessages, Record.line, Recovery.message]
  | _ => simp [sentenceMessages, Record.line]

theorem Noted.statements (h : Noted t e behind notes) :
    notes.countP (Record.hasMessage "Robot declaration") + notes.countP (Record.hasMessage "Method call") =
      if e.isStatement then 1 else 0 := by
  cases h with
  | recovering cause recovery => cases recovery <;> rfl
  | _ => simp [Record.hasMessage, Record.line, Event.isStatement]

theorem Noted.robots (h : Noted t e behind notes) :
    t.robots.length + notes.countP (Record.hasMessage "Robot declared") = behind.robots.length := by
  cases h with
  | recovering cause recovery => cases recovery <;> rfl
  | _ => simp [Record.hasMessage, Record.line]

theorem Noted.recovered (h : Noted t e behind notes) :
    (notes.filterMap Record.recovered?).Sublist ((e.diagnostics t).filter fun d => d.stage == .grammar) := by
  rw [e.filter_grammar]
  cases h with
  | recovering cause recovery => exact List.Sublist.refl _
  | _ => exact List.nil_sublist _

end Event

section Events
variable (t : RobotTable) (events : List Event)

theorem grouped_collect : Grouped (collect Event.records t events) := by
  induction events generalizing t with
  | nil => exact .nil
  | cons e events ih => exact (e.noted t).grouped.append (ih _)

theorem filter_collect_eq_nil {message : String} (other : message ∉ sentenceMessages) :
    (collect Event.records t events).filter (Record.hasMessage message) = [] := by
  refine List.filter_eq_nil_iff.mpr fun note hn said => ?_
  obtain ⟨earlier, e, -, -, shown⟩ := exists_of_mem_collect hn
  exact other (beq_iff_eq.mp said ▸ (e.noted _).message note shown)

theorem countP_statements :
    (collect Event.records t events).countP (Record.hasMessage "Robot declaration") +
      (collect Event.records t events).countP (Record.hasMessage "Method call") = countStatements events := by
  induction events generalizing t with
  | nil => rfl
  | cons e events ih =>
    have own := (e.noted t).statements
    have rest := ih (t.after e)
    rw [countStatements] at rest ⊢
    rw [collect, List.countP_append, List.countP_append, List.countP_cons]
    omega

theorem countP_robots :
    t.robots.length + (collect Event.records t events).countP (Record.hasMessage "Robot declared") =
      (t.afterAll events).robots.length := by
  induction events generalizing t with
  | nil => rfl
  | cons e events ih =>
    rw [collect, List.countP_append, ← Nat.add_assoc, (e.noted t).robots, ih]
    rfl

/-- Reading is taken up again behind problems of the grammar only, behind each of them at most once. -/
theorem recovered_sublist :
    ((collect Event.records t events).filterMap Record.recovered?).Sublist
      ((collect Event.diagnostics t events).filter fun d => d.stage == .grammar) := by
  induction events generalizing t with
  | nil => exact List.Sublist.refl _
  | cons e events ih =>
    rw [collect, collect, List.filterMap_append, List.filter_append]
    exact (e.noted t).recovered.append (ih _)

end Events

theorem notesOf_map (message : String) (notes : List Record) :
    notesOf message (notes.map Record.line) = (notes.filter (Record.hasMessage message)).map Record.line :=
  List.filter_map

theorem length_notesOf (message : String) (notes : List Record) :
    (notesOf message (notes.map Record.line)).length = notes.countP (Record.hasMessage message) := by
  rw [notesOf_map, List.length_map, List.countP_eq_length_filter]

theorem Record.isRecovering_line (note : Record) : note.line.isRecovering = note.recovered?.isSome := by
  cases note with
  | recovering recovery diagnostic => cases recovery <;> rfl
  | _ => rfl

theorem Record.fields_line {note : Record} {d : Diagnostic} (h : note.recovered? = some d) :
    note.line.fields = [("diagnostic", d.text)] := by
  cases note with
  | recovering recovery diagnostic =>
    cases h
    rfl
  | _ => cases h

theorem fields_recovering (notes : List Record) :
    ((notes.map Record.line).filter LogLine.isRecovering).map LogLine.fields =
      (notes.filterMap Record.recovered?).map fun d => [("diagnostic", d.text)] := by
  induction notes with
  | nil => rfl
  | cons note notes ih =>
    rw [List.map_cons, List.filter_cons, List.filterMap_cons, note.isRecovering_line]
    cases h : note.recovered? with
    | none => simpa using ih
    | some d => simpa [Record.fields_line h] using ih

theorem length_significant (tokens : List Token) :
    (significant tokens).length = tokens.length - (invalidTokens tokens).length := by
  have parts := List.length_eq_length_filter_add (l := tokens) fun t => t.kind == .invalid
  rw [significant, invalidTokens]
  simp only [bne] at *
  omega

section Analysis
variable (source : String)

theorem countStage_lexical :
    countStage (analyze source).diagnostics .lexical = (invalidTokens (tokenize source)).length := by
  have invalid : ((invalidTokens (tokenize source)).map Token.invalidDiagnostic).countP (fun d => d.stage == .lexical) =
      (invalidTokens (tokenize source)).length := by
    rw [List.countP_map]
    exact List.countP_eq_length.mpr fun _ _ => rfl
  have others : (findings source).countP (fun d => d.stage == .lexical) = 0 :=
    List.countP_eq_zero.mpr fun d hd => by simpa using stage_findings source d hd
  rw [countStage, diagnostics_eq_findings, List.countP_append, invalid, others, Nat.add_zero]

theorem countStage_findings :
    countStage (analyze source).diagnostics .grammar + countStage (analyze source).diagnostics .semantic =
      (findings source).length := by
  have stages := sum_countStage (analyze source).diagnostics
  have lexical := countStage_lexical source
  have parts := congrArg List.length (diagnostics_eq_findings source)
  rw [List.length_append, List.length_map] at parts
  omega

def notesBefore (source : String) : List Record :=
  [.analyzing source.utf8ByteSize, .lexing source.utf8ByteSize,
    .lexed (tokenize source).length (invalidTokens (tokenize source)).length,
    .parsing (significant (tokenize source)).length]

def notesBehind (source : String) : List Record :=
  let statements := countStatements (Script.ofTokens (tokenize source)).read
  [.parsed statements (findings source).length,
    .analyzed statements (analyze source).symbols.robots.length (analyze source).diagnostics.length]

theorem records_analyze : (analyze source).records =
    notesBefore source ++ collect Event.records .empty (Script.ofTokens (tokenize source)).read ++
      notesBehind source := by
  have hl : (tokenize source).getLast? = some (.endOf source.toList) := (laid_tokenize source).getLast?_eq
  have ends : (Token.endOf source.toList).kind = .endOfInput := rfl
  rw [notesBefore, notesBehind, findings, Session.added_eq]
  simp only [analyze, Session.analyze, hl, ends]
  simp [lexingRecords, Session.read, Session.report, RobotTable.snapshot]
  rfl

theorem notesOf_analyze {message : String} (other : message ∉ sentenceMessages) :
    notesOf message ((analyze source).records.map Record.line) =
      ((notesBefore source ++ notesBehind source).filter (Record.hasMessage message)).map Record.line := by
  rw [notesOf_map, records_analyze, List.filter_append, List.filter_append, filter_collect_eq_nil _ _ other,
    List.append_nil, List.filter_append]

theorem length_notesOf_analyze {message : String} (own : message ∈ sentenceMessages) :
    (notesOf message ((analyze source).records.map Record.line)).length =
      (collect Event.records .empty (Script.ofTokens (tokenize source)).read).countP (Record.hasMessage message) := by
  have around : ∀ note ∈ notesBefore source ++ notesBehind source, note.line.message ∉ sentenceMessages := by
    simp [notesBefore, notesBehind, sentenceMessages, Record.line]
  have quiet : ∀ note ∈ notesBefore source ++ notesBehind source, ¬note.hasMessage message = true :=
    fun note hn said => around note hn (beq_iff_eq.mp said ▸ own)
  obtain ⟨before, behind⟩ := List.forall_mem_append.mp quiet
  rw [length_notesOf, records_analyze, List.countP_append, List.countP_append, List.countP_eq_zero.mpr before,
    List.countP_eq_zero.mpr behind, Nat.zero_add, Nat.add_zero]

theorem grouped_records : Grouped (analyze source).records := by
  rw [records_analyze, List.append_assoc]
  have behind : Grouped (notesBehind source) := .alone rfl (.alone rfl .nil)
  have before : Grouped (notesBefore source) := .alone rfl (.alone rfl (.alone rfl (.alone rfl .nil)))
  exact before.append ((grouped_collect _ _).append behind)

theorem recovered_analyze :
    ((analyze source).records.filterMap Record.recovered?).Sublist
      ((analyze source).diagnostics.filter fun d => d.stage == .grammar) := by
  have recovered := recovered_sublist .empty (Script.ofTokens (tokenize source)).read
  have added : findings source = collect Event.diagnostics .empty (Script.ofTokens (tokenize source)).read :=
    Session.empty.added_eq _
  rw [← added] at recovered
  rw [records_analyze, diagnostics_eq_findings, List.filterMap_append, List.filterMap_append, List.filter_append]
  exact (List.append_nil _).symm ▸ recovered.trans (List.sublist_append_right _ _)

theorem exists_fits {before after : List LogLine} {line : LogLine}
    (split : (analyze source).records.map Record.line = before ++ line :: after) :
    ∃ (front : List Record) (note : Record) (rest : List Record), before = front.map Record.line ∧
      note.line = line ∧ after = rest.map Record.line ∧ note.Fits front rest := by
  obtain ⟨front, others, records, rfl, behind⟩ := List.map_eq_append_iff.mp split
  obtain ⟨note, rest, rfl, rfl, rfl⟩ := List.map_eq_cons_iff.mp behind
  exact ⟨front, note, rest, rfl, rfl, rfl, (grouped_records source).fits records⟩

variable {before after : List LogLine} {line : LogLine}
  (split : (analyze source).records.map Record.line = before ++ line :: after)
include split

theorem declaration_before (message : line.message = "Robot declared") :
    ∃ front robot position, before = front ++ [⟨.trace, "Robot declaration", [("robot", robot)]⟩] ∧
      line.fields = [("robot", robot), ("position", position)] := by
  obtain ⟨front, note, rest, rfl, rfl, rfl, fits⟩ := exists_fits source split
  cases note with
  | declared robot position =>
    obtain ⟨front, rfl⟩ := fits
    exact ⟨front.map Record.line, robot, position.text, List.map_append, rfl⟩
  | recovering recovery diagnostic => cases recovery <;> simp [Record.line, Recovery.message] at message
  | _ => simp [Record.line] at message

theorem check_behind (message : line.message = "Method call") :
    ∃ robot method number argument rest,
      line.fields = [("robot", robot), ("method", method), ("line", number)] ∧
      after = ⟨.trace, "Validating call", [("robot", robot), ("method", method), ("argument", argument)]⟩ :: rest := by
  obtain ⟨front, note, rest, rfl, rfl, rfl, fits⟩ := exists_fits source split
  cases note with
  | call robot method number =>
    obtain ⟨argument, rest, rfl⟩ := fits
    exact ⟨robot, method.name, toString number, argumentText argument, rest.map Record.line, rfl, rfl⟩
  | recovering recovery diagnostic => cases recovery <;> simp [Record.line, Recovery.message] at message
  | _ => simp [Record.line] at message

theorem call_before (message : line.message = "Validating call") :
    ∃ front robot method number argument,
      before = front ++ [⟨.trace, "Method call", [("robot", robot), ("method", method), ("line", number)]⟩] ∧
        line.fields = [("robot", robot), ("method", method), ("argument", argument)] := by
  obtain ⟨front, note, rest, rfl, rfl, rfl, fits⟩ := exists_fits source split
  cases note with
  | checking robot method argument =>
    obtain ⟨front, number, rfl⟩ := fits
    exact ⟨front.map Record.line, robot, method.name, toString number, argumentText argument, List.map_append, rfl⟩
  | recovering recovery diagnostic => cases recovery <;> simp [Record.line, Recovery.message] at message
  | _ => simp [Record.line] at message

end Analysis

/-- The log of an analysis is true. The numbers of words, of invalid characters, of sentences, of problems and of robots
that it gives are those of the result, and it has a line for each sentence and each declared robot. A robot is declared
right behind its declaration, and a call and its check stand side by side. The recoveries give problems of the grammar,
each at most once and in their order. -/
theorem log_agrees (source : String) :
    let found := (analyze source).diagnostics
    let words := (analyze source).tokens.length
    let robots := (analyze source).symbols.robots.length
    let lines := (analyze source).records.map Record.line
    let statements := (notesOf "Robot declaration" lines).length + (notesOf "Method call" lines).length
    notesOf "Lexing finished" lines = [⟨.debug, "Lexing finished",
        [("tokens", toString words), ("errors", toString (countStage found .lexical))]⟩] ∧
      countStage found .lexical ≤ words ∧
      notesOf "Parsing" lines = [⟨.debug, "Parsing", [("tokens", toString (words - countStage found .lexical))]⟩] ∧
      notesOf "Parsing finished" lines = [⟨.debug, "Parsing finished", [("statements", toString statements),
        ("diagnostics", toString (countStage found .grammar + countStage found .semantic))]⟩] ∧
      notesOf "Analysis finished" lines = [⟨.debug, "Analysis finished", [("statements", toString statements),
        ("robots", toString robots), ("diagnostics", toString found.length)]⟩] ∧
      robots = (notesOf "Robot declared" lines).length ∧
      (∀ before line after, lines = before ++ line :: after → line.message = "Robot declared" →
        ∃ front robot position, before = front ++ [⟨.trace, "Robot declaration", [("robot", robot)]⟩] ∧
          line.fields = [("robot", robot), ("position", position)]) ∧
      (∀ before line after, lines = before ++ line :: after → line.message = "Method call" →
        ∃ robot method number argument rest,
          line.fields = [("robot", robot), ("method", method), ("line", number)] ∧ after =
            ⟨.trace, "Validating call", [("robot", robot), ("method", method), ("argument", argument)]⟩ :: rest) ∧
      (∀ before line after, lines = before ++ line :: after → line.message = "Validating call" →
        ∃ front robot method number argument,
          before = front ++ [⟨.trace, "Method call", [("robot", robot), ("method", method), ("line", number)]⟩] ∧
            line.fields = [("robot", robot), ("method", method), ("argument", argument)]) ∧
      ((lines.filter LogLine.isRecovering).map LogLine.fields).Sublist
        ((found.filter fun d => d.stage == .grammar).map fun d => [("diagnostic", d.text)]) := by
  intro found words robots lines statements
  have lexical : countStage found .lexical = (invalidTokens (tokenize source)).length := countStage_lexical source
  have others : countStage found .grammar + countStage found .semantic = (findings source).length :=
    countStage_findings source
  have length : words = (tokenize source).length := congrArg List.length (tokens_analyze source)
  have sentences : statements = countStatements (Script.ofTokens (tokenize source)).read := by
    rw [← countP_statements .empty, ← length_notesOf_analyze source (by decide),
      ← length_notesOf_analyze source (by decide)]
  have declared : robots = (notesOf "Robot declared" lines).length := by
    rw [length_notesOf_analyze source (by decide)]
    exact (congrArg List.length (robots_analyze source)).trans ((countP_robots .empty _).symm.trans (Nat.zero_add _))
  have stage : ∀ message ∉ sentenceMessages, notesOf message lines =
      ((notesBefore source ++ notesBehind source).filter (Record.hasMessage message)).map Record.line :=
    fun _ => notesOf_analyze source
  rw [lexical, others, length, sentences]
  refine ⟨?_, List.length_filter_le _ _, ?_, ?_, ?_, declared, fun _ _ _ => declaration_before source,
    fun _ _ _ => check_behind source, fun _ _ _ => call_before source, ?_⟩
  · rw [stage _ (by decide)]
    rfl
  · rw [stage _ (by decide), ← length_significant]
    rfl
  · rw [stage _ (by decide)]
    rfl
  · rw [stage _ (by decide)]
    rfl
  · rw [fields_recovering]
    exact (recovered_analyze source).map _

theorem log_agrees_on_call :
    let lines := (analyze "Robot r\nr.iniciar").records.map Record.line
    let declared : LogLine := ⟨.debug, "Robot declared", [("robot", "r"), ("position", "1:7")]⟩
    let call : LogLine := ⟨.trace, "Method call", [("robot", "r"), ("method", "iniciar"), ("line", "2")]⟩
    let check : LogLine := ⟨.trace, "Validating call", [("robot", "r"), ("method", "iniciar"), ("argument", "None")]⟩
    lines = lines.take 5 ++ [declared, call, check] ++ lines.drop 8 ∧
      (∃ front robot position, lines.take 5 = front ++ [⟨.trace, "Robot declaration", [("robot", robot)]⟩] ∧
        declared.fields = [("robot", robot), ("position", position)]) ∧
      (∃ robot method number argument rest,
        call.fields = [("robot", robot), ("method", method), ("line", number)] ∧ check :: lines.drop 8 =
          ⟨.trace, "Validating call", [("robot", robot), ("method", method), ("argument", argument)]⟩ :: rest) ∧
      ∃ front robot method number argument, lines.take 5 ++ [declared, call] =
          front ++ [⟨.trace, "Method call", [("robot", robot), ("method", method), ("line", number)]⟩] ∧
        check.fields = [("robot", robot), ("method", method), ("argument", argument)] := by
  intro lines declared call check
  have split : lines = lines.take 5 ++ [declared, call, check] ++ lines.drop 8 := by decide +kernel
  obtain ⟨-, -, -, -, -, -, declarations, checks, calls, -⟩ := log_agrees "Robot r\nr.iniciar"
  refine ⟨split, declarations _ declared ([call, check] ++ lines.drop 8) ?_ rfl,
    checks (lines.take 5 ++ [declared]) call _ ?_ rfl, calls _ check (lines.drop 8) ?_ rfl⟩
  all_goals
    refine split.trans ?_
    simp only [List.append_assoc, List.cons_append, List.nil_append]

end ArmScript
