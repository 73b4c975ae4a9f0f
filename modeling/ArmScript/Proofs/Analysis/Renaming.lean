import ArmScript.Proofs.Analysis.Outline
import ArmScript.Proofs.Robot.Recast
import ArmScript.Proofs.Script.Subjects

/-!
Names are compared and nothing else is done with them. A run over words with other names, given that no two names become
one, does the same about the other names. Places are not even compared, so they may become any others.
-/
set_option autoImplicit false

namespace ArmScript

namespace Recast
variable (c : Recast)

def token (t : Token) : Token where
  lexeme := if t.kind = .identifier then c.name t.lexeme else t.lexeme
  kind := t.kind
  position := c.position t.position
  span := c.span t.span

def label (l : Label) : Label := { l with span := c.span l.span }

def outline (d : Diagnostic) : Diagnostic :=
  { d.outline with position := c.position d.position, labels := d.labels.map c.label }

section Words
variable {t : Token}

theorem lexeme_name (h : t.kind = .identifier) : (c.token t).lexeme = c.name t.lexeme := if_pos h

theorem lexeme_other (h : t.kind ≠ .identifier) : (c.token t).lexeme = t.lexeme := if_neg h

theorem robot_token (h : t.kind = .identifier) : (c.token t).robot = c.robot t.robot := by
  simp only [Token.robot, c.lexeme_name h]
  rfl

end Words

theorem impliedStop_token (tokens : List Token) : impliedStop (tokens.map c.token) = c.token (impliedStop tokens) := by
  have stop : ∀ (p : Position) (s : Span),
      c.token ⟨"", .endOfInput, p, s⟩ = ⟨"", .endOfInput, c.position p, c.span s⟩ := fun _ _ => rfl
  simp only [impliedStop, List.getLast?_map]
  cases tokens.getLast? with
  | none =>
    rw [Option.map_none, stop, c.position_start, c.span_start]
  | some last =>
    rw [Option.map_some, stop, c.span_stop]
    rfl

theorem read_token (tokens : List Token) :
    (Script.ofTokens (tokens.map c.token)).read = (Script.ofTokens tokens).read.map (Event.map c.token) := by
  have kinds : ∀ t : Token, (c.token t).kind = t.kind := fun _ => rfl
  rw [Script.ofTokens_map kinds (c.impliedStop_token tokens), Script.read_map kinds]

theorem outline_fault (cause : Fault) : (cause.map c.token).diagnostic.outline = c.outline cause.diagnostic := by
  cases cause with
  | unexpected wanted found => cases wanted <;> rfl
  | _ => rfl

section Table
variable (t : RobotTable)

theorem outline_checkCall {robot : Token} {argument : Option Token} (method : Method)
    (name : robot.kind = .identifier) (number : ∀ value ∈ argument, value.kind = .number) :
    ((c.table t).checkCall (c.token robot) method (argument.map c.token)).map (fun fault => fault.diagnostic.outline) =
      (t.checkCall robot method argument).map fun fault => c.outline fault.diagnostic := by
  unfold RobotTable.checkCall
  rw [c.lexeme_name name, c.isDeclared_table, List.map_append, List.map_append]
  congr 1
  · split <;> rfl
  · cases argument with
    | none => rfl
    | some argument =>
      cases method.range with
      | none => rfl
      | some range =>
        have value : (c.token argument).lexeme = argument.lexeme := c.lexeme_other (by simp [number argument rfl])
        simp only [Option.map_some, checkArgument, value]
        split
        · rfl
        · split <;> rfl

end Table

section Events
variable {words : List Token}

theorem after_table (t : RobotTable) {e : Event} (suits : e.Suits words) :
    (c.table t).after (e.map c.token) = c.table (t.after e) := by
  cases e with
  | declaration name =>
    rw [Event.map, RobotTable.after, RobotTable.after, c.robot_token suits.1, c.declare_table]
    cases t.declare name.robot <;> rfl
  | _ => rfl

theorem outline_diagnostics (t : RobotTable) {e : Event} (suits : e.Suits words) :
    ((e.map c.token).diagnostics (c.table t)).map Diagnostic.outline = (e.diagnostics t).map c.outline := by
  cases e with
  | declaration name =>
    rw [Event.map, Event.diagnostics, Event.diagnostics, c.robot_token suits.1, c.declare_table]
    cases t.declare name.robot <;> rfl
  | call robot method argument =>
    simpa [Event.map, Event.diagnostics, Function.comp_def] using c.outline_checkCall t method suits.1 suits.2
  | fault cause recovery => simp [Event.map, Event.diagnostics, c.outline_fault]
  | opened brace => rfl
  | closed brace => rfl

end Events

theorem read_session (s other : Session) (robots : other.robots = c.table s.robots) (tokens : List Token) :
    let first := s.read tokens
    let second := other.read (tokens.map c.token)
    second.statements = first.statements ∧
      (other.added (tokens.map c.token)).map Diagnostic.outline = (s.added tokens).map c.outline ∧
      second.session.robots = c.table first.session.robots := by
  intro first second
  have suits := Script.suits_ofTokens tokens
  have left : ∀ t, ∀ e ∈ (Script.ofTokens tokens).read, (c.table t).after (e.map c.token) = c.table (t.after e) :=
    fun t e he => c.after_table t (suits e he)
  refine ⟨?_, ?_, ?_⟩
  · simp only [first, second, Session.read, c.read_token, countStatements_map]
  · rw [Session.added_eq, Session.added_eq, c.read_token, robots, map_collect, map_collect]
    exact collect_congr left (fun t e he => c.outline_diagnostics t (suits e he)) s.robots
  · simp only [first, second, Session.read, c.read_token, robots]
    exact RobotTable.afterAll_map left s.robots

end Recast

def Token.renamed (r : String → String) (t : Token) : Token :=
  if t.kind = .identifier then { t with lexeme := r t.lexeme } else t

def Robot.renamed (r : String → String) (robot : Robot) : Robot := { robot with name := r robot.name }

section Names
variable {r : String → String} (injective : Function.Injective r)

theorem Recast.token_ofNames (t : Token) : (ofNames injective).token t = t.renamed r := by
  by_cases h : t.kind = .identifier <;> simp [token, ofNames, Token.renamed, h]

theorem Recast.outline_ofNames (d : Diagnostic) : (ofNames injective).outline d = d.outline := by
  have labels : d.labels.map (ofNames injective).label = d.labels := List.map_id d.labels
  rw [outline, labels]
  rfl

end Names

/-- Names count only for which of them are equal. Where each name in a list of words is replaced by another one, and no
two by the same, a run counts the same sentences, says the same in the same places up to messages and advice, and
declares the same robots under their other names. -/
theorem Session.read_renamed {r : String → String} (injective : Function.Injective r) (tokens : List Token) :
    let first := Session.empty.read tokens
    let second := Session.empty.read (tokens.map (Token.renamed r))
    second.statements = first.statements ∧
      second.session.diagnostics.map Diagnostic.outline = first.session.diagnostics.map Diagnostic.outline ∧
      second.session.robots.robots = first.session.robots.robots.map (Robot.renamed r) := by
  intro first second
  have words : tokens.map (Recast.ofNames injective).token = tokens.map (Token.renamed r) :=
    List.map_congr_left fun t _ => Recast.token_ofNames injective t
  have outlines : (Recast.ofNames injective).outline = Diagnostic.outline :=
    funext (Recast.outline_ofNames injective)
  obtain ⟨count, found, robots⟩ := (Recast.ofNames injective).read_session .empty .empty rfl tokens
  rw [words] at count found robots
  rw [outlines] at found
  exact ⟨count, found, congrArg RobotTable.robots robots⟩

/-- Three names that become others. The first gets the spelling of the keyword and stays a name. It is declared twice, and
the other two are not declared. -/
theorem Session.read_renamed_words :
    let r := fun name : String => name ++ "obot"
    let tokens := tokenize "Robot R Robot R q.base(400) Rob.iniciar"
    Function.Injective r ∧
      (Session.empty.read (tokens.map (Token.renamed r))).session.diagnostics.map Diagnostic.outline =
        (Session.empty.read tokens).session.diagnostics.map Diagnostic.outline := by
  have injective : Function.Injective fun name : String => name ++ "obot" := fun a b h => by simpa using h
  exact ⟨injective, (Session.read_renamed injective _).2.1⟩

end ArmScript
