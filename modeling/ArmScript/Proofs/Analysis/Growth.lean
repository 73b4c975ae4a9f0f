import ArmScript.Analysis.Session

/-!
Sessions that are written into, step by step and by one run after the other. No step looks at what was reported before
it. So a session only grows, by what the words and the robots before them tell, and a list of words that is refused
leaves no trace in it.
-/
set_option autoImplicit false

namespace ArmScript

theorem RobotTable.prefix_after (t : RobotTable) (e : Event) : t.robots <+: (t.after e).robots := by
  cases e with
  | declaration name =>
    simp only [after, declare]
    cases t.robot? name.robot.name with
    | some first => exact List.prefix_refl _
    | none => exact List.prefix_append _ _
  | _ => exact List.prefix_refl _

namespace Session

def happen (e : Event) : StateM Session Unit :=
  modify fun s => { s.report (e.diagnostics s.robots) with robots := s.robots.after e }

def readInPlace (tokens : List Token) : StateM Session Nat := do
  let events := (Script.ofTokens tokens).read
  events.forM happen
  return countStatements events

def stagesInPlace (tokens : List Token) : StateM Session Nat := do
  modify fun s => s.report ((invalidTokens tokens).map Token.invalidDiagnostic)
  let statements ← readInPlace tokens
  modify fun s => s.report (s.robots.duplicates.map DuplicateRobot.diagnostic)
  return statements

/-- A refusal undoes nothing that was written before it. -/
def analyzeInPlace (tokens : List Token) : ExceptT StreamError (StateM Session) Nat := do
  match tokens.getLast? with
  | none => throw .empty
  | some last => if last.kind ≠ .endOfInput then throw .missingEndOfInput
  stagesInPlace tokens

inductive Task where
  | read (tokens : List Token)
  | analyze (tokens : List Token)
  deriving DecidableEq, Repr

inductive Answer where
  | statements (count : Nat)
  | accepted
  | refused (cause : StreamError)
  deriving DecidableEq, Repr

def perform : Task → StateM Session Answer
  | .read tokens => return .statements (← readInPlace tokens)
  | .analyze tokens => do
    match ← (analyzeInPlace tokens).run with
    | .ok _ => return .accepted
    | .error cause => return .refused cause

section Run
variable (s : Session) (tokens : List Token)

theorem run_forM_happen (events : List Event) :
    (events.forM happen).run s =
      ((), ⟨s.robots.afterAll events, s.diagnostics ++ collect Event.diagnostics s.robots events⟩) := by
  induction events generalizing s with
  | nil =>
    rw [collect, List.append_nil]
    rfl
  | cons e events ih =>
    have first : ((e :: events).forM happen).run s =
        (events.forM happen).run ⟨s.robots.after e, s.diagnostics ++ e.diagnostics s.robots⟩ := rfl
    rw [first, ih, collect, List.append_assoc]
    rfl

theorem run_readInPlace : (readInPlace tokens).run s = ((s.read tokens).statements, (s.read tokens).session) := by
  simp only [readInPlace, StateT.run_bind, run_forM_happen]
  rfl

theorem run_stagesInPlace :
    (stagesInPlace tokens).run s =
      let reading := (s.report ((invalidTokens tokens).map Token.invalidDiagnostic)).read tokens
      (reading.statements,
        reading.session.report (reading.session.robots.duplicates.map DuplicateRobot.diagnostic)) := by
  have read := (s.report ((invalidTokens tokens).map Token.invalidDiagnostic)).run_readInPlace tokens
  simp only [stagesInPlace, StateT.run_bind]
  exact congrArg (fun written : Nat × Session =>
    (written.1, written.2.report (written.2.robots.duplicates.map DuplicateRobot.diagnostic))) read

theorem run_analyzeInPlace :
    (analyzeInPlace tokens).run.run s = match s.analyze tokens with
      | .ok reading => (.ok reading.statements, reading.session)
      | .error cause => (.error cause, s) := by
  simp only [analyzeInPlace, analyze]
  cases tokens.getLast? with
  | none => rfl
  | some last =>
    by_cases ends : last.kind = .endOfInput
    · simp only [ne_eq, ends, not_true, if_false]
      exact congrArg (fun written : Nat × Session => (Except.ok written.1, written.2)) (s.run_stagesInPlace tokens)
    · simp only [ne_eq, ends, not_false_eq_true, if_true]
      rfl

end Run

section Grows
variable {α β : Type}

/-- What is written, and what is answered, is told by the robots alone. Diagnostics and robots are added behind those
that were there. -/
def Grows (m : StateM Session α) : Prop :=
  ∀ s, m.run s = ((m.run ⟨s.robots, []⟩).1,
      ⟨(m.run ⟨s.robots, []⟩).2.robots, s.diagnostics ++ (m.run ⟨s.robots, []⟩).2.diagnostics⟩) ∧
    s.robots.robots <+: (m.run s).2.robots.robots

theorem grows_pure (a : α) : Grows (pure a) := fun s => by
  refine ⟨?_, List.prefix_refl _⟩
  have same : s = ⟨s.robots, s.diagnostics ++ []⟩ := by rw [List.append_nil]
  exact congrArg (Prod.mk a) same

theorem Grows.bind {m : StateM Session α} {f : α → StateM Session β} (hm : Grows m) (hf : ∀ a, Grows (f a)) :
    Grows (m >>= f) := by
  intro s
  have run : ∀ t, (m >>= f).run t = (f (m.run t).1).run (m.run t).2 := fun _ => rfl
  obtain ⟨first, longer⟩ := hm s
  simp only [run]
  generalize m.run ⟨s.robots, []⟩ = alone at first ⊢
  obtain ⟨a, robots, added⟩ := alone
  rw [first] at longer ⊢
  obtain ⟨second, longest⟩ := hf a ⟨robots, s.diagnostics ++ added⟩
  have apart : (f a).run ⟨robots, added⟩ = _ := (hf a ⟨robots, added⟩).1
  refine ⟨?_, longer.trans longest⟩
  rw [second, apart, List.append_assoc]

theorem grows_report (found : RobotTable → List Diagnostic) :
    Grows (modify fun s => s.report (found s.robots)) := fun _ => ⟨rfl, List.prefix_refl _⟩

theorem grows_happen (e : Event) : Grows (happen e) := fun s => ⟨rfl, s.robots.prefix_after e⟩

theorem grows_forM_happen (events : List Event) : Grows (events.forM happen) := by
  induction events with
  | nil => exact grows_pure ()
  | cons e events ih => exact (grows_happen e).bind fun _ => ih

theorem grows_readInPlace (tokens : List Token) : Grows (readInPlace tokens) :=
  (grows_forM_happen _).bind fun _ => grows_pure _

theorem grows_stagesInPlace (tokens : List Token) : Grows (stagesInPlace tokens) :=
  (grows_report fun _ => (invalidTokens tokens).map Token.invalidDiagnostic).bind fun _ =>
    (grows_readInPlace tokens).bind fun _ =>
      (grows_report fun robots => robots.duplicates.map DuplicateRobot.diagnostic).bind fun _ => grows_pure _

theorem grows_analyzeInPlace (tokens : List Token) : Grows (analyzeInPlace tokens).run := by
  have stages : Grows ((stagesInPlace tokens).map Except.ok : StateM Session (Except StreamError Nat)) :=
    (grows_stagesInPlace tokens).bind fun _ => grows_pure _
  unfold analyzeInPlace
  cases tokens.getLast? with
  | none => exact grows_pure _
  | some last =>
    by_cases ends : last.kind = .endOfInput
    · simp only [ne_eq, ends, not_true, if_false]
      exact stages
    · simp only [ne_eq, ends, not_false_eq_true, if_true]
      exact grows_pure _

theorem grows_perform (task : Task) : Grows (perform task) := by
  cases task with
  | read tokens => exact (grows_readInPlace tokens).bind fun _ => grows_pure _
  | analyze tokens =>
    refine (grows_analyzeInPlace tokens).bind fun result => ?_
    cases result with
    | ok statements => exact grows_pure _
    | error cause => exact grows_pure _

theorem grows_mapM_perform (tasks : List Task) : Grows (tasks.mapM perform) := by
  induction tasks with
  | nil => exact grows_pure []
  | cons task tasks ih =>
    rw [List.mapM_cons]
    exact (grows_perform task).bind fun _ => ih.bind fun _ => grows_pure _

end Grows

theorem run_perform_analyze (s : Session) (tokens : List Token) :
    (perform (.analyze tokens)).run s = match s.analyze tokens with
      | .ok reading => (.accepted, reading.session)
      | .error cause => (.refused cause, s) := by
  simp only [perform, StateT.run_bind, run_analyzeInPlace]
  cases s.analyze tokens with
  | ok reading => rfl
  | error cause => rfl

theorem analyze_eq_error_iff (s : Session) (tokens : List Token) (cause : StreamError) :
    s.analyze tokens = .error cause ↔ match cause with
      | .empty => tokens = []
      | .missingEndOfInput => ∃ last, tokens.getLast? = some last ∧ last.kind ≠ .endOfInput := by
  unfold analyze
  cases hl : tokens.getLast? with
  | none =>
    obtain rfl := List.getLast?_eq_none_iff.mp hl
    cases cause <;> simp
  | some last =>
    have nonempty : tokens ≠ [] := by
      rintro rfl
      cases hl
    by_cases ends : last.kind = .endOfInput
    · cases cause <;> simp [ends, nonempty]
    · cases cause <;> simp [ends, nonempty]

/--
A list of words is refused when it is empty or its last word does not mark the end of the input, and for no other
reason, and nothing is changed then. Whatever a session is asked to read or to analyze, in any order, keeps the
diagnostics and the robots that it had in front of the new ones. Answers, new diagnostics and new robots are those of a
session that has the same robots and no diagnostics yet, so that runs can be put together from their parts.
-/
theorem tasks_append_only (s : Session) :
    (∀ tokens, (perform (.read tokens)).run s = (.statements (s.read tokens).statements, (s.read tokens).session)) ∧
      (∀ tokens, (perform (.analyze tokens)).run s = match s.analyze tokens with
        | .ok reading => (.accepted, reading.session)
        | .error cause => (.refused cause, s)) ∧
      (∀ tokens cause, s.analyze tokens = .error cause ↔ match cause with
        | .empty => tokens = []
        | .missingEndOfInput => ∃ last, tokens.getLast? = some last ∧ last.kind ≠ .endOfInput) ∧
      (∀ tasks : List Task,
        let whole := (tasks.mapM perform).run s
        let alone := (tasks.mapM perform).run ⟨s.robots, []⟩
        whole = (alone.1, ⟨alone.2.robots, s.diagnostics ++ alone.2.diagnostics⟩) ∧
          s.robots.robots <+: whole.2.robots.robots) ∧
      ∀ first second : List Task,
        let earlier := (first.mapM perform).run s
        let later := (second.mapM perform).run ⟨earlier.2.robots, []⟩
        ((first ++ second).mapM perform).run s =
          (earlier.1 ++ later.1, ⟨later.2.robots, earlier.2.diagnostics ++ later.2.diagnostics⟩) := by
  refine ⟨fun tokens => ?_, s.run_perform_analyze, s.analyze_eq_error_iff, fun tasks => grows_mapM_perform tasks s,
    fun first second => ?_⟩
  · simp only [perform, StateT.run_bind, run_readInPlace]
    rfl
  · intro earlier later
    have next : (second.mapM perform).run earlier.2 = _ := (grows_mapM_perform second earlier.2).1
    rw [List.mapM_append]
    simp only [StateT.run_bind]
    exact congrArg (fun written : List Answer × Session => (earlier.1 ++ written.1, written.2)) next

end Session

end ArmScript
