import ArmScript.Analysis.Record
import ArmScript.Robot.Call
import ArmScript.Script.Reader

/-!
The state that checking keeps: the robots declared so far and the problems found so far. What a run adds depends
on the words and on the robots, never on the problems found before.
-/
set_option autoImplicit false

namespace ArmScript

def Token.robot (name : Token) : Robot := ⟨name.lexeme, name.position, name.span⟩

def RobotTable.after (t : RobotTable) : Event → RobotTable
  | .declaration name => match t.declare name.robot with
    | .ok declared => declared
    | .error _ => t
  | _ => t

def Event.diagnostics (t : RobotTable) : Event → List Diagnostic
  | .declaration name => match t.declare name.robot with
    | .ok _ => []
    | .error duplicate => [duplicate.diagnostic]
  | .call robot method argument => (t.checkCall robot method argument).map CallFault.diagnostic
  | .fault cause _ => [cause.diagnostic]
  | .opened _ | .closed _ => []

def Event.records (t : RobotTable) : Event → List Record
  | .declaration name => .declaration name.lexeme :: match t.declare name.robot with
    | .ok _ => [.declared name.lexeme name.position]
    | .error _ => []
  | .call robot method argument =>
    [.call robot.lexeme method robot.position.line,
      .checking robot.lexeme method (argument.map Token.lexeme)]
  | .fault cause (some recovery) => [.recovering recovery cause.diagnostic]
  | .fault _ none | .opened _ | .closed _ => []

def RobotTable.afterAll (t : RobotTable) (events : List Event) : RobotTable :=
  events.foldl RobotTable.after t

/-- What the events show of themselves, each with the robots that were declared before it. -/
def collect {α : Type} (view : RobotTable → Event → List α) (t : RobotTable) : List Event → List α
  | [] => []
  | e :: events => view t e ++ collect view (t.after e) events

theorem collect_append {α : Type} (view : RobotTable → Event → List α) (t : RobotTable)
    (xs ys : List Event) :
    collect view t (xs ++ ys) = collect view t xs ++ collect view (t.afterAll xs) ys := by
  induction xs generalizing t with
  | nil => rfl
  | cons x xs ih => simp [collect, ih, RobotTable.afterAll]

inductive StreamError where
  | empty
  | missingEndOfInput
  deriving DecidableEq, Repr

def StreamError.message : StreamError → String
  | .empty => "token stream is empty"
  | .missingEndOfInput => "token stream does not end with an end-of-input token"

def StreamError.diagnostic (e : StreamError) : Diagnostic :=
  ⟨.grammar, some .e101, e.message, .start, [], some "tokens must come from `Lexer` or `tokenize`"⟩

def invalidHelp : String :=
  "only letters, digits, `_`, `.`, `=`, `(`, `)`, `\x7b`, `\x7d` and `//` comments may appear"

def Token.invalidDiagnostic (t : Token) : Diagnostic :=
  .coded .e001 t.position s!"unexpected character `{Text.visible t.lexeme}`" t.span
    Code.e001.description (some invalidHelp)

def invalidTokens (tokens : List Token) : List Token := tokens.filter fun t => t.kind == .invalid

structure Session where
  robots : RobotTable
  diagnostics : List Diagnostic
  deriving DecidableEq, Repr

structure Reading where
  session : Session
  statements : Nat
  records : List Record
  deriving DecidableEq, Repr

namespace Session

def empty : Session := ⟨.empty, []⟩

def report (s : Session) (ds : List Diagnostic) : Session :=
  { s with diagnostics := s.diagnostics ++ ds }

def read (s : Session) (tokens : List Token) : Reading :=
  let events := (Script.ofTokens tokens).read
  let found := collect Event.diagnostics s.robots events
  { session := ⟨s.robots.afterAll events, s.diagnostics ++ found⟩
    statements := countStatements events
    records := .parsing (significant tokens).length :: collect Event.records s.robots events ++
      [.parsed (countStatements events) found.length] }

/-- Reports the invalid characters, then reads and checks the sentences. A list of words that does not end
with the end of the input is refused and changes nothing. -/
def analyze (s : Session) (tokens : List Token) : Except StreamError Reading :=
  match tokens.getLast? with
  | none => .error .empty
  | some last =>
    if last.kind ≠ .endOfInput then .error .missingEndOfInput
    else
      let reading := (s.report ((invalidTokens tokens).map Token.invalidDiagnostic)).read tokens
      let duplicates := reading.session.robots.duplicates.map DuplicateRobot.diagnostic
      let session := reading.session.report duplicates
      .ok { session, statements := reading.statements
            records := reading.records ++
              [.analyzed reading.statements session.robots.robots.length session.diagnostics.length] }

end Session

end ArmScript
