import ArmScript.Proofs.Analysis.Added
import ArmScript.Proofs.Script.Calls

/-!
What a run says about names and values. It depends on nothing but the complete calls and the declarations that
stand in the words: each call is checked with the robots of the session and the names declared before it, and each
name is declared once, where it stands first.
-/
set_option autoImplicit false

namespace ArmScript

def callDiagnostics (t : RobotTable) : Event → List Diagnostic
  | .call robot method argument => (t.checkCall robot method argument).map CallFault.diagnostic
  | _ => []

theorem filter_isOfCall (t : RobotTable) (e : Event) :
    (e.diagnostics t).filter Diagnostic.isOfCall = callDiagnostics t e := by
  cases e with
  | declaration name =>
    simp only [Event.diagnostics]
    split <;> rfl
  | call robot method argument =>
    simp [Event.diagnostics, callDiagnostics, CallFault.isOfCall_diagnostic]
  | fault cause recovery =>
    simp [Event.diagnostics, callDiagnostics, cause.isOfCall_diagnostic]
  | opened brace => rfl
  | closed brace => rfl

theorem robot?_after_declaration (t : RobotTable) (name : Token) (word : String) :
    (t.after (.declaration name)).robot? word =
      (t.robot? word).or (if name.lexeme == word then some name.robot else none) := by
  simp only [RobotTable.after, RobotTable.declare, Token.robot]
  cases hr : t.robot? name.lexeme with
  | none =>
    cases hw : name.lexeme == word <;> simp [RobotTable.robot?, List.find?_append, hw]
  | some first =>
    by_cases same : name.lexeme = word
    · simp [← same, hr]
    · simp [same]

theorem isDeclared_after_declaration (t : RobotTable) (name : Token) (word : String) :
    (t.after (.declaration name)).isDeclared word = (t.isDeclared word || name.lexeme == word) := by
  rw [RobotTable.isDeclared_eq_isSome, RobotTable.isDeclared_eq_isSome, robot?_after_declaration, Option.isSome_or]
  cases name.lexeme == word <;> rfl

theorem collect_callDiagnostics (robots : List Robot) (t : RobotTable) (before ts : List Token)
    (h : ∀ word, t.isDeclared word =
      RobotTable.isDeclared ⟨robots ++ (declaredNames before).map Token.robot⟩ word) :
    collect callDiagnostics t (statements (endsWithKeyword before) ts) =
      (calls before ts).flatMap fun (earlier, c) =>
        (RobotTable.checkCall ⟨robots ++ (declaredNames earlier).map Token.robot⟩ c.robot c.method
          c.argument).map CallFault.diagnostic := by
  induction ts generalizing t before with
  | nil => rfl
  | cons u ts ih =>
    have checked : ∀ c : Call, t.checkCall c.robot c.method c.argument =
        RobotTable.checkCall ⟨robots ++ (declaredNames before).map Token.robot⟩ c.robot c.method c.argument := by
      intro c
      simp only [RobotTable.checkCall, h]
    rw [statements_eq_append, calls, collect_append, collect_append]
    -- a word that a keyword declares starts no call, so a step adds a name or a call but never both
    cases hn : endsWithKeyword before && u.kind == .identifier with
    | true =>
      have first : callAt? (endsWithKeyword before) (u :: ts) = none :=
        callAt?_eq_none (.inl (Bool.and_eq_true_iff.mp hn).1)
      have rest := ih (t.after (.declaration u)) (before ++ [u]) (by
        intro word
        rw [isDeclared_after_declaration, h, declaredNames_concat, hn]
        simp [RobotTable.isDeclared, Token.robot, Bool.or_assoc])
      simpa [first, collect, callDiagnostics, RobotTable.afterAll] using rest
    | false =>
      have rest := ih t (before ++ [u]) (by
        intro word
        rw [h, declaredNames_concat, hn]
        simp)
      cases hc : callAt? (endsWithKeyword before) (u :: ts) with
      | none => simpa [collect, RobotTable.afterAll] using rest
      | some c => simpa [collect, RobotTable.afterAll, RobotTable.after, callDiagnostics, Call.event, checked] using rest

/-- The diagnostics of calls that a run adds are those of the complete calls in the words, from left to right. Each
call is checked with the robots of the session and the names declared before it. The complete calls and the
declarations are also all that counts as sentences. -/
theorem Session.checks_of_words (s : Session) (tokens : List Token) :
    let words := (tokens.filter fun t => t.kind != .invalid).takeWhile fun t => t.kind != .endOfInput
    (s.added tokens).filter Diagnostic.isOfCall =
        ((calls [] words).flatMap fun (earlier, c) =>
          (RobotTable.checkCall ⟨s.robots.robots ++ (declaredNames earlier).map Token.robot⟩ c.robot c.method
            c.argument).map CallFault.diagnostic) ∧
      (s.read tokens).statements = (calls [] words).length + (declaredNames words).length := by
  intro words
  have body : (Script.ofTokens tokens).body = words := rfl
  have silent : ∀ t e, e.isStatement = false → callDiagnostics t e = [] ∧ t.after e = t := by
    intro t e h
    cases e <;> first | exact ⟨rfl, rfl⟩ | cases h
  constructor
  · rw [s.added_eq, collect_filter]
    simp only [filter_isOfCall]
    rw [← collect_filter_events callDiagnostics Event.isStatement silent, Script.filter_isStatement_read, body]
    exact collect_callDiagnostics s.robots.robots s.robots [] words (by simp [declaredNames])
  · exact Script.countStatements_read (Script.ofTokens tokens)

/-- Each name with the first of the names before it that is spelled alike. -/
def namesakes (earlier : List Token) : List Token → List (Option Token × Token)
  | [] => []
  | name :: names =>
    (earlier.find? fun first => first.lexeme == name.lexeme, name) :: namesakes (earlier ++ [name]) names

def declarationDiagnostics (t : RobotTable) : Event → List Diagnostic
  | .declaration name => match t.robot? name.lexeme with
    | some first => [DuplicateRobot.diagnostic ⟨first, name.robot⟩]
    | none => []
  | _ => []

theorem filter_isOfDeclaration (t : RobotTable) (e : Event) :
    (e.diagnostics t).filter Diagnostic.isOfDeclaration = declarationDiagnostics t e := by
  cases e with
  | declaration name =>
    simp only [Event.diagnostics, declarationDiagnostics, RobotTable.declare, Token.robot]
    cases t.robot? name.lexeme <;> rfl
  | call robot method argument =>
    simp [Event.diagnostics, declarationDiagnostics, CallFault.isOfCall_diagnostic]
  | fault cause recovery => simp [Event.diagnostics, declarationDiagnostics, cause.isOfCall_diagnostic]
  | opened brace => rfl
  | closed brace => rfl

theorem after_of_declared?_eq_none (t : RobotTable) {e : Event} (h : e.declared? = none) : t.after e = t := by
  cases e <;> first | rfl | cases h

def KeepsFirst (t : RobotTable) (earlier : List Token) : Prop :=
  ∀ word, t.robot? word = (earlier.find? fun name => name.lexeme == word).map Token.robot

section Declaration
variable {t : RobotTable} {earlier : List Token} {name : Token}

theorem KeepsFirst.after_declaration (h : KeepsFirst t earlier) :
    KeepsFirst (t.after (.declaration name)) (earlier ++ [name]) := by
  intro word
  rw [robot?_after_declaration, h, List.find?_append]
  cases earlier.find? fun first => first.lexeme == word <;>
    cases hw : name.lexeme == word <;> simp [hw]

theorem KeepsFirst.declare_new (h : KeepsFirst t earlier)
    (hn : (earlier.find? fun first => first.lexeme == name.lexeme) = none) :
    (t.after (.declaration name)).robots = t.robots ++ [name.robot] ∧
      declarationDiagnostics t (.declaration name) = [] := by
  have found := h name.lexeme
  constructor
  · simp [RobotTable.after, RobotTable.declare, Token.robot, found, hn]
  · simp [declarationDiagnostics, found, hn]

theorem KeepsFirst.declare_again {first : Token} (h : KeepsFirst t earlier)
    (hf : (earlier.find? fun first => first.lexeme == name.lexeme) = some first) :
    (t.after (.declaration name)).robots = t.robots ∧
      declarationDiagnostics t (.declaration name) = [DuplicateRobot.diagnostic ⟨first.robot, name.robot⟩] := by
  have found := h name.lexeme
  constructor
  · simp [RobotTable.after, RobotTable.declare, Token.robot, found, hf]
  · simp [declarationDiagnostics, found, hf]

end Declaration

theorem eq_declaration_of_declared? {e : Event} {name : Token} (h : e.declared? = some name) :
    e = .declaration name := by
  cases e with
  | declaration other => exact congrArg Event.declaration (Option.some.inj h)
  | _ => cases h

theorem declarations_of_events (t : RobotTable) (earlier : List Token) (events : List Event)
    (h : KeepsFirst t earlier) :
    let names := namesakes earlier (events.filterMap Event.declared?)
    (t.afterAll events).robots =
        t.robots ++ (names.filterMap fun (first, name) => if first.isNone then some name.robot else none) ∧
      collect declarationDiagnostics t events =
        names.filterMap fun (first, name) =>
          first.map fun first => DuplicateRobot.diagnostic ⟨first.robot, name.robot⟩ := by
  induction events generalizing t earlier with
  | nil => simp [RobotTable.afterAll, namesakes, collect]
  | cons e events ih =>
    cases hd : e.declared? with
    | none =>
      have shown : declarationDiagnostics t e = [] := by cases e <;> first | rfl | cases hd
      have left := after_of_declared?_eq_none t hd
      simpa [RobotTable.afterAll, collect, List.filterMap_cons, hd, shown, left] using ih t earlier h
    | some name =>
      obtain rfl := eq_declaration_of_declared? hd
      obtain ⟨kept, shown⟩ := ih (t.after (.declaration name)) (earlier ++ [name]) h.after_declaration
      have run : t.afterAll (.declaration name :: events) = (t.after (.declaration name)).afterAll events := rfl
      rw [run, kept]
      cases hf : earlier.find? fun first => first.lexeme == name.lexeme with
      | none =>
        obtain ⟨fresh, silent⟩ := h.declare_new hf
        simp [collect, namesakes, Event.declared?, hf, fresh, silent, shown]
      | some first =>
        obtain ⟨same, reported⟩ := h.declare_again hf
        simp [collect, namesakes, Event.declared?, hf, same, reported, shown]

/-- A first run declares every name once, with the place where it stands first. Each place where it stands again is
one diagnostic, which points there and, second, at the first place. -/
theorem Session.declarations_of_words (tokens : List Token) :
    let words := (tokens.filter fun t => t.kind != .invalid).takeWhile fun t => t.kind != .endOfInput
    let names := namesakes [] (declaredNames words)
    let repeated := (Session.empty.added tokens).filter Diagnostic.isOfDeclaration
    (Session.empty.read tokens).session.robots.robots =
        (names.filterMap fun (first, name) => if first.isNone then some name.robot else none) ∧
      repeated =
        (names.filterMap fun (first, name) =>
          first.map fun first => DuplicateRobot.diagnostic ⟨first.robot, name.robot⟩) ∧
      (repeated.map fun d => (d.position, d.labels.map fun label => (label.span, label.isPrimary))) =
        names.filterMap fun (first, name) =>
          first.map fun first => (name.position, [(name.span, true), (first.span, false)]) := by
  intro words names repeated
  have body : (Script.ofTokens tokens).body = words := rfl
  obtain ⟨kept, shown⟩ := declarations_of_events .empty [] (Script.ofTokens tokens).read (fun _ => rfl)
  rw [Script.filterMap_declared_read, body] at kept shown
  have reported : repeated = names.filterMap fun (first, name) =>
      first.map fun first => DuplicateRobot.diagnostic ⟨first.robot, name.robot⟩ := by
    rw [← shown]
    simp only [repeated, Session.added_eq, collect_filter, filter_isOfDeclaration]
    rfl
  refine ⟨kept, reported, ?_⟩
  rw [reported, List.map_filterMap]
  congr 1
  funext ⟨first, name⟩
  cases first <;> rfl

end ArmScript
