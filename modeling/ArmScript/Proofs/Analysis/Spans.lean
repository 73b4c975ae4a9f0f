import ArmScript.Proofs.Analysis.Anchors
import ArmScript.Proofs.Robot.Recast
import ArmScript.Proofs.Script.Kinds

set_option autoImplicit false

namespace ArmScript

def Token.unspanned (t : Token) : Token := { t with span := ⟨0, 0⟩ }

def Label.unspanned (l : Label) : Label := { l with span := ⟨0, 0⟩ }

def Diagnostic.unspanned (d : Diagnostic) : Diagnostic := { d with labels := d.labels.map Label.unspanned }

def Robot.unspanned (r : Robot) : Robot := { r with span := ⟨0, 0⟩ }

def RobotTable.unspanned (t : RobotTable) : RobotTable := ⟨t.robots.map Robot.unspanned⟩

theorem Fault.diagnostic_unspanned (cause : Fault) :
    (cause.map Token.unspanned).diagnostic = cause.diagnostic.unspanned := by
  cases cause with
  | unexpected wanted found => cases wanted <;> rfl
  | _ => rfl

namespace RobotTable
variable (t : RobotTable)

theorem isDeclared_unspanned (name : String) : t.unspanned.isDeclared name = t.isDeclared name :=
  Recast.unspanned.isDeclared_table t name

theorem declare_unspanned (r : Robot) :
    t.unspanned.declare r.unspanned = match t.declare r with
      | .ok left => .ok left.unspanned
      | .error cause => .error ⟨cause.first.unspanned, cause.duplicate.unspanned⟩ :=
  Recast.unspanned.declare_table t r

theorem after_unspanned (e : Event) : t.unspanned.after (e.map Token.unspanned) = (t.after e).unspanned := by
  cases e with
  | declaration name =>
    have declared : t.unspanned.declare name.unspanned.robot = _ := t.declare_unspanned name.robot
    rw [Event.map, after, after, declared]
    cases t.declare name.robot <;> rfl
  | _ => rfl

theorem checkCall_unspanned (robot : Token) (method : Method) (argument : Option Token) :
    (t.unspanned.checkCall robot.unspanned method (argument.map Token.unspanned)).map CallFault.diagnostic =
      (t.checkCall robot method argument).map fun fault => fault.diagnostic.unspanned := by
  have name : t.unspanned.isDeclared robot.unspanned.lexeme = t.isDeclared robot.lexeme :=
    t.isDeclared_unspanned robot.lexeme
  unfold checkCall
  rw [name, List.map_append, List.map_append]
  congr 1
  · split <;> rfl
  · cases argument with
    | none => rfl
    | some argument =>
      cases method.range with
      | none => rfl
      | some range =>
        have value : argument.unspanned.lexeme = argument.lexeme := rfl
        simp only [Option.map_some, checkArgument, value]
        split
        · rfl
        · split <;> rfl

end RobotTable

theorem Event.diagnostics_unspanned (t : RobotTable) (e : Event) :
    (e.map Token.unspanned).diagnostics t.unspanned = (e.diagnostics t).map Diagnostic.unspanned := by
  cases e with
  | declaration name =>
    have declared : t.unspanned.declare name.unspanned.robot = _ := t.declare_unspanned name.robot
    rw [map, diagnostics, diagnostics, declared]
    cases t.declare name.robot <;> rfl
  | call robot method argument =>
    simpa [map, diagnostics, Function.comp_def] using t.checkCall_unspanned robot method argument
  | fault cause recovery => simp [map, diagnostics, cause.diagnostic_unspanned]
  | opened brace => rfl
  | closed brace => rfl

theorem collect_unspanned (t : RobotTable) (events : List Event) :
    collect Event.diagnostics t.unspanned (events.map (Event.map Token.unspanned)) =
      (collect Event.diagnostics t events).map Diagnostic.unspanned := by
  rw [map_collect]
  exact collect_congr (fun t e _ => t.after_unspanned e) (fun t e _ => e.diagnostics_unspanned t) t

theorem RobotTable.afterAll_unspanned (t : RobotTable) (events : List Event) :
    t.unspanned.afterAll (events.map (Event.map Token.unspanned)) = (t.afterAll events).unspanned :=
  afterAll_map (fun t e _ => t.after_unspanned e) t

theorem significant_significant (tokens : List Token) : significant (significant tokens) = significant tokens := by
  simp [significant]

theorem Script.ofTokens_significant {tokens : List Token} {last : Token} (member : last ∈ tokens)
    (ends : last.kind = .endOfInput) : Script.ofTokens (significant tokens) = Script.ofTokens tokens := by
  have kept : last ∈ significant tokens := List.mem_filter.mpr ⟨member, by rw [ends]; rfl⟩
  obtain ⟨stop, found⟩ : ∃ stop, (significant tokens).find? (fun t => t.kind == .endOfInput) = some stop :=
    Option.isSome_iff_exists.mp (List.find?_isSome.mpr ⟨last, kept, beq_iff_eq.mpr ends⟩)
  simp only [ofTokens, significant_significant, found, Option.getD_some]

theorem impliedStop_unspanned (tokens : List Token) :
    impliedStop (tokens.map Token.unspanned) = (impliedStop tokens).unspanned := by
  simp only [impliedStop, List.getLast?_map]
  cases tokens.getLast? <;> rfl

theorem Script.read_unspanned (tokens : List Token) :
    (Script.ofTokens (tokens.map Token.unspanned)).read =
      (Script.ofTokens tokens).read.map (Event.map Token.unspanned) := by
  have kinds : ∀ t : Token, t.unspanned.kind = t.kind := fun _ => rfl
  rw [Script.ofTokens_map kinds (impliedStop_unspanned tokens), Script.read_map kinds]

section Texts
variable {source other : String}

theorem endOf_mem_tokenize (source : String) : Token.endOf source.toList ∈ tokenize source :=
  List.mem_of_getLast? (laid_tokenize source).getLast?_eq

/-- All that happens while a script is read is the same, up to spans, where its valid words are. -/
theorem read_of_significant
    (h : (significant (tokenize source)).map Token.unspanned = (significant (tokenize other)).map Token.unspanned) :
    (Script.ofTokens (tokenize source)).read.map (Event.map Token.unspanned) =
      (Script.ofTokens (tokenize other)).read.map (Event.map Token.unspanned) := by
  rw [← Script.ofTokens_significant (endOf_mem_tokenize source) rfl,
    ← Script.ofTokens_significant (endOf_mem_tokenize other) rfl, ← Script.read_unspanned, h, Script.read_unspanned]

def findings (source : String) : List Diagnostic := Session.empty.added (tokenize source)

theorem diagnostics_eq_findings (source : String) :
    (analyze source).diagnostics =
      (invalidTokens (tokenize source)).map Token.invalidDiagnostic ++ findings source := by
  rw [diagnostics_analyze, findings, Session.added_eq, Session.added_eq]
  rfl

theorem stage_findings (source : String) : ∀ d ∈ findings source, d.stage ≠ .lexical := by
  intro d hd
  rw [findings, Session.added_eq] at hd
  rcases stage_collect _ _ d hd with h | h <;> rw [h] <;> decide

theorem filter_diagnostics (source : String) :
    ((analyze source).diagnostics.filter fun d => d.stage != .lexical) = findings source := by
  have invalid : ((invalidTokens (tokenize source)).map Token.invalidDiagnostic).filter
      (fun d => d.stage != .lexical) = [] :=
    List.filter_eq_nil_iff.mpr (List.forall_mem_map.mpr fun _ _ => Bool.false_ne_true)
  have valid : (findings source).filter (fun d => d.stage != .lexical) = findings source :=
    List.filter_eq_self.mpr fun d hd => bne_iff_ne.mpr (stage_findings source d hd)
  rw [diagnostics_eq_findings, List.filter_append, invalid, valid, List.nil_append]

theorem robots_analyze (source : String) :
    (analyze source).symbols.robots = (RobotTable.empty.afterAll (Script.ofTokens (tokenize source)).read).robots := by
  have hl : (tokenize source).getLast? = some (.endOf source.toList) := (laid_tokenize source).getLast?_eq
  have ends : (Token.endOf source.toList).kind = .endOfInput := rfl
  simp only [analyze, Session.analyze, hl, ends]
  rfl

theorem findings_of_significant
    (h : (significant (tokenize source)).map Token.unspanned = (significant (tokenize other)).map Token.unspanned) :
    (findings source).map Diagnostic.unspanned = (findings other).map Diagnostic.unspanned := by
  have shown := collect_unspanned RobotTable.empty
  rw [findings, findings, Session.added_eq, Session.added_eq]
  exact (shown _).symm.trans ((congrArg _ (read_of_significant h)).trans (shown _))

theorem robots_of_significant
    (h : (significant (tokenize source)).map Token.unspanned = (significant (tokenize other)).map Token.unspanned) :
    (analyze source).symbols.robots.map Robot.unspanned = (analyze other).symbols.robots.map Robot.unspanned := by
  have left := RobotTable.empty.afterAll_unspanned
  rw [robots_analyze, robots_analyze]
  exact congrArg RobotTable.robots ((left _).symm.trans ((congrArg _ (read_of_significant h)).trans (left _)))

theorem invalidDiagnostics_unspanned (tokens : List Token) :
    ((invalidTokens tokens).map Token.invalidDiagnostic).map Diagnostic.unspanned =
      (invalidTokens (tokens.map Token.unspanned)).map Token.invalidDiagnostic := by
  rw [invalidTokens, invalidTokens, List.filter_map, List.map_map, List.map_map]
  rfl

theorem analyze_of_unspanned (h : (tokenize source).map Token.unspanned = (tokenize other).map Token.unspanned) :
    (analyze source).diagnostics.map Diagnostic.unspanned = (analyze other).diagnostics.map Diagnostic.unspanned ∧
      (analyze source).symbols.robots.map Robot.unspanned = (analyze other).symbols.robots.map Robot.unspanned := by
  have kinds : ∀ t : Token, t.unspanned.kind = t.kind := fun _ => rfl
  have same : (significant (tokenize source)).map Token.unspanned =
      (significant (tokenize other)).map Token.unspanned := by
    rw [← significant_map kinds, h, significant_map kinds]
  refine ⟨?_, robots_of_significant same⟩
  rw [diagnostics_eq_findings, diagnostics_eq_findings, List.map_append, List.map_append,
    invalidDiagnostics_unspanned, h, invalidDiagnostics_unspanned, findings_of_significant same]

end Texts

end ArmScript
