import ArmScript.Analysis.Session

/-!
What one run adds to a session, and which events show in which diagnostics: faults in those of the grammar,
declarations and calls in those of names and values.
-/
set_option autoImplicit false

namespace ArmScript

/-- The diagnostics that a run adds to those of the session. -/
def Session.added (s : Session) (tokens : List Token) : List Diagnostic :=
  (s.read tokens).session.diagnostics.drop s.diagnostics.length

theorem Session.added_eq (s : Session) (tokens : List Token) :
    s.added tokens = collect Event.diagnostics s.robots (Script.ofTokens tokens).read := by
  simp [added, read]

def Diagnostic.isOfCall (d : Diagnostic) : Bool :=
  d.code == some .e200 || d.code == some .e202 || d.code == some .e203

def Diagnostic.isOfDeclaration (d : Diagnostic) : Bool := d.code == some .e201

section Collect
variable {α : Type} (view : RobotTable → Event → List α)

theorem collect_filter (p : α → Bool) (t : RobotTable) (events : List Event) :
    (collect view t events).filter p = collect (fun t e => (view t e).filter p) t events := by
  induction events generalizing t with
  | nil => rfl
  | cons e events ih => simp [collect, ih]

theorem collect_filter_events (keep : Event → Bool)
    (silent : ∀ t e, keep e = false → view t e = [] ∧ t.after e = t) (t : RobotTable) (events : List Event) :
    collect view t (events.filter keep) = collect view t events := by
  induction events generalizing t with
  | nil => rfl
  | cons e events ih =>
    cases he : keep e with
    | false =>
      obtain ⟨shown, left⟩ := silent t e he
      simp [collect, he, shown, left, ih]
    | true => simp [collect, he, ih]

end Collect

theorem map_collect {α β : Type} (f : α → β) (view : RobotTable → Event → List α) (t : RobotTable)
    (events : List Event) :
    (collect view t events).map f = collect (fun t e => (view t e).map f) t events := by
  induction events generalizing t with
  | nil => rfl
  | cons e events ih => simp [collect, ih]

section Replaced
variable {f : Event → Event} {g : RobotTable → RobotTable} {events : List Event}
  (left : ∀ t, ∀ e ∈ events, (g t).after (f e) = g (t.after e))
include left

/-- Where events and tables are replaced and one view shows of the new ones what another shows of the old ones, the two
collect the same. -/
theorem collect_congr {α : Type} {view other : RobotTable → Event → List α}
    (shown : ∀ t, ∀ e ∈ events, other (g t) (f e) = view t e) (t : RobotTable) :
    collect other (g t) (events.map f) = collect view t events := by
  induction events generalizing t with
  | nil => rfl
  | cons e events ih =>
    have rest := ih (fun t e he => left t e (List.mem_cons_of_mem _ he))
      (fun t e he => shown t e (List.mem_cons_of_mem _ he)) (t.after e)
    rw [List.map_cons, collect, collect, shown t e List.mem_cons_self, left t e List.mem_cons_self, rest]

theorem RobotTable.afterAll_map (t : RobotTable) : (g t).afterAll (events.map f) = g (t.afterAll events) := by
  induction events generalizing t with
  | nil => rfl
  | cons e events ih =>
    have rest := ih (fun t e he => left t e (List.mem_cons_of_mem _ he)) (t.after e)
    rwa [← left t e List.mem_cons_self] at rest

end Replaced

theorem collect_const {α : Type} (view : Event → List α) (t : RobotTable) (events : List Event) :
    collect (fun _ e => view e) t events = events.flatMap view := by
  induction events generalizing t with
  | nil => rfl
  | cons e events ih => simp [collect, ih]

theorem Fault.exists_code (cause : Fault) :
    ∃ c : Code, cause.diagnostic.code = some c ∧ cause.diagnostic.stage = c.stage ∧ c.stage = .grammar := by
  have unexpected : ∀ found : Token, (unexpectedCode found).stage = .grammar := by
    intro found
    unfold unexpectedCode
    split <;> rfl
  cases cause with
  | unexpected wanted found => cases wanted <;> exact ⟨_, rfl, rfl, unexpected found⟩
  | badHeader robot wanted found => exact ⟨_, rfl, rfl, unexpected found⟩
  | _ => exact ⟨_, rfl, rfl, rfl⟩

theorem Fault.stage_diagnostic (cause : Fault) : cause.diagnostic.stage = .grammar := by
  obtain ⟨c, -, hs, hg⟩ := cause.exists_code
  exact hs.trans hg

theorem Fault.isOfCall_diagnostic (cause : Fault) :
    cause.diagnostic.isOfCall = false ∧ cause.diagnostic.isOfDeclaration = false := by
  obtain ⟨c, hc, -, hg⟩ := cause.exists_code
  unfold Diagnostic.isOfCall Diagnostic.isOfDeclaration
  rw [hc]
  cases c <;> first | exact ⟨rfl, rfl⟩ | cases hg

theorem CallFault.stage_diagnostic (fault : CallFault) : fault.diagnostic.stage = .semantic := by
  cases fault <;> rfl

theorem CallFault.isOfCall_diagnostic (fault : CallFault) :
    fault.diagnostic.isOfCall = true ∧ fault.diagnostic.isOfDeclaration = false := by
  cases fault <;> exact ⟨rfl, rfl⟩

theorem Event.filter_grammar (t : RobotTable) (e : Event) :
    (e.diagnostics t).filter (fun d => d.stage == .grammar) = (e.fault?.map Fault.diagnostic).toList := by
  cases e with
  | declaration name =>
    simp only [diagnostics]
    split <;> rfl
  | call robot method argument =>
    simp [diagnostics, fault?, CallFault.stage_diagnostic]
  | fault cause recovery => simp [diagnostics, fault?, cause.stage_diagnostic]
  | opened brace => rfl
  | closed brace => rfl

theorem Session.filter_grammar_added (s : Session) (tokens : List Token) :
    (s.added tokens).filter (fun d => d.stage == .grammar) =
      ((Script.ofTokens tokens).read.filterMap Event.fault?).map Fault.diagnostic := by
  rw [s.added_eq, collect_filter]
  simp only [Event.filter_grammar, collect_const]
  induction (Script.ofTokens tokens).read with
  | nil => rfl
  | cons e events ih => cases h : e.fault? <;> simp [h, ih]

theorem Session.grammar_silent_iff (s : Session) (tokens : List Token) :
    (∀ d ∈ s.added tokens, d.stage ≠ .grammar) ↔ ∀ e ∈ (Script.ofTokens tokens).read, e.fault? = none := by
  rw [← List.filterMap_eq_nil_iff, ← List.map_eq_nil_iff (f := Fault.diagnostic), ← s.filter_grammar_added tokens,
    List.filter_eq_nil_iff]
  simp only [beq_iff_eq, ne_eq]

end ArmScript
