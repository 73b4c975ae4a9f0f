import ArmScript.Proofs.Robot.Table
import ArmScript.Robot.Call

/-!
Tables that have been asked anything in any order. Of all that was asked only the declarations count: the table holds
the first one of each name, and every answer can be told from the declarations before it.
-/
set_option autoImplicit false

namespace ArmScript.RobotTable

inductive Operation where
  | declare (r : Robot)
  | isDeclared (name : String)
  | robot (name : String)
  | check (robot : Token) (method : Method) (argument : Option Token)
  | duplicates
  | snapshot
  deriving DecidableEq, Repr

inductive Answer where
  | declared
  | refused (cause : DuplicateRobot)
  | isDeclared (known : Bool)
  | robot (found : Option Robot)
  | faults (found : List CallFault)
  | duplicates (found : List DuplicateRobot)
  | snapshot (symbols : Symbols)
  deriving DecidableEq, Repr

def perform (t : RobotTable) : Operation → Answer × RobotTable
  | .declare r => match t.declare r with
    | .ok left => (.declared, left)
    | .error cause => (.refused cause, t)
  | .isDeclared name => (.isDeclared (t.isDeclared name), t)
  | .robot name => (.robot (t.robot? name), t)
  | .check robot method argument => (.faults (t.checkCall robot method argument), t)
  | .duplicates => (.duplicates t.duplicates, t)
  | .snapshot => (.snapshot t.snapshot, t)

def performAll (t : RobotTable) : List Operation → List Answer × RobotTable
  | [] => ([], t)
  | op :: ops =>
    let rest := (t.perform op).2.performAll ops
    ((t.perform op).1 :: rest.1, rest.2)

def Operation.declared? : Operation → Option Robot
  | .declare r => some r
  | _ => none

/-- The first declaration of each name, in their order. -/
def firsts : List Robot → List Robot
  | [] => []
  | r :: rs => r :: (firsts rs).filter fun s => s.name != r.name

/-- The answer that the declarations before an operation give. -/
def answerAfter (declared : List Robot) : Operation → Answer
  | .declare r => match declared.find? fun s => s.name == r.name with
    | some first => .refused ⟨first, r⟩
    | none => .declared
  | .isDeclared name => .isDeclared (declared.any fun r => r.name == name)
  | .robot name => .robot (declared.find? fun r => r.name == name)
  | .check robot method argument => .faults (checkCall ⟨firsts declared⟩ robot method argument)
  | .duplicates => .duplicates []
  | .snapshot => .snapshot ⟨firsts declared, catalog⟩

def answersAfter (declared : List Robot) : List Operation → List Answer
  | [] => []
  | op :: ops => answerAfter declared op :: answersAfter (declared ++ op.declared?.toList) ops

section Firsts
variable (declared : List Robot)

theorem find?_firsts (name : String) :
    (firsts declared).find? (fun r => r.name == name) = declared.find? fun r => r.name == name := by
  induction declared with
  | nil => rfl
  | cons r rs ih =>
    rw [firsts, List.find?_cons, List.find?_cons]
    cases here : r.name == name with
    | true => rfl
    | false =>
      -- what is filtered out has the name of `r`, and that is not the one looked for
      have other : ∀ s : Robot, decide ((s.name != r.name) = true ∧ (s.name == name) = true) = (s.name == name) := by
        intro s
        by_cases same : s.name = name
        · subst same
          have apart : s.name ≠ r.name := Ne.symm (beq_eq_false_iff_ne.mp here)
          simp [apart]
        · simp [same]
      simp only [List.find?_filter, other, ih]

theorem firsts_concat (r : Robot) :
    firsts (declared ++ [r]) = firsts declared ++ match declared.find? fun s => s.name == r.name with
      | some _ => []
      | none => [r] := by
  induction declared with
  | nil => rfl
  | cons s rs ih =>
    rw [List.cons_append, firsts, ih, List.filter_append, firsts, List.find?_cons, List.cons_append]
    congr 2
    by_cases same : s.name = r.name
    · have here : (s.name == r.name) = true := beq_iff_eq.mpr same
      rw [here]
      cases rs.find? fun s => s.name == r.name <;> simp [same]
    · have differs : (s.name == r.name) = false := beq_eq_false_iff_ne.mpr same
      have apart : (r.name != s.name) = true := bne_iff_ne.mpr (Ne.symm same)
      rw [differs]
      cases rs.find? fun s => s.name == r.name <;> simp [apart]

theorem firsts_sublist : (firsts declared).Sublist declared := by
  induction declared with
  | nil => exact List.Sublist.refl []
  | cons r rs ih => exact (List.filter_sublist.trans ih).cons_cons r

theorem distinct_firsts : Distinct ⟨firsts declared⟩ := by
  induction declared with
  | nil => exact List.nodup_nil
  | cons r rs ih =>
    refine List.nodup_cons.mpr ⟨?_, List.Nodup.sublist (List.filter_sublist.map Robot.name) ih⟩
    intro member
    obtain ⟨s, hs, same⟩ := List.mem_map.mp member
    simpa [same] using (List.mem_filter.mp hs).2

end Firsts

def Recalls (t : RobotTable) (declared : List Robot) : Prop := t.robots = firsts declared

section Recalls
variable {t : RobotTable} {declared : List Robot} (h : t.Recalls declared)
include h

theorem Recalls.robot?_eq (name : String) : t.robot? name = declared.find? fun r => r.name == name := by
  rw [robot?, h, find?_firsts]

theorem Recalls.isDeclared_eq (name : String) : t.isDeclared name = declared.any fun r => r.name == name := by
  rw [isDeclared_eq_isSome, h.robot?_eq, Bool.eq_iff_iff, List.find?_isSome, List.any_eq_true]

theorem Recalls.duplicates_eq_nil : t.duplicates = [] := by
  have distinct : t.Distinct := by
    rw [Distinct, h]
    exact distinct_firsts declared
  exact distinct.duplicates_eq_nil

theorem Recalls.perform_declare (r : Robot) :
    t.perform (.declare r) = match declared.find? fun s => s.name == r.name with
      | some first => (.refused ⟨first, r⟩, t)
      | none => (.declared, ⟨t.robots ++ [r]⟩) := by
  rw [RobotTable.perform, declare, h.robot?_eq]
  cases declared.find? fun s => s.name == r.name <;> rfl

theorem Recalls.eq : t = ⟨firsts declared⟩ := congrArg RobotTable.mk h

theorem Recalls.concat (r : Robot) (unknown : (declared.find? fun s => s.name == r.name) = none) :
    Recalls ⟨t.robots ++ [r]⟩ (declared ++ [r]) := by
  rw [Recalls, firsts_concat, unknown]
  exact congrArg (· ++ [r]) h

theorem Recalls.concat_known {first : Robot} (r : Robot)
    (known : (declared.find? fun s => s.name == r.name) = some first) : t.Recalls (declared ++ [r]) := by
  rw [Recalls, firsts_concat, known, List.append_nil]
  exact h

theorem Recalls.perform (op : Operation) :
    (t.perform op).1 = answerAfter declared op ∧ (t.perform op).2.Recalls (declared ++ op.declared?.toList) := by
  have unchanged : t.Recalls (declared ++ []) := by rwa [List.append_nil]
  cases op with
  | declare r =>
    simp only [h.perform_declare, answerAfter, Operation.declared?, Option.toList_some]
    cases found : declared.find? fun s => s.name == r.name with
    | some first => exact ⟨rfl, h.concat_known r found⟩
    | none => exact ⟨rfl, h.concat r found⟩
  | isDeclared name => exact ⟨congrArg Answer.isDeclared (h.isDeclared_eq name), unchanged⟩
  | robot name => exact ⟨congrArg Answer.robot (h.robot?_eq name), unchanged⟩
  | check robot method argument =>
    exact ⟨congrArg (fun table => Answer.faults (checkCall table robot method argument)) h.eq, unchanged⟩
  | duplicates => exact ⟨congrArg Answer.duplicates h.duplicates_eq_nil, unchanged⟩
  | snapshot => exact ⟨congrArg (fun table => Answer.snapshot (snapshot table)) h.eq, unchanged⟩

theorem Recalls.performAll (ops : List Operation) :
    (t.performAll ops).1 = answersAfter declared ops ∧
      (t.performAll ops).2.Recalls (declared ++ ops.filterMap Operation.declared?) := by
  -- on the operations, for any table that recalls what was declared so far
  induction ops generalizing t declared with
  | nil => exact ⟨rfl, by rwa [List.filterMap_nil, List.append_nil]⟩
  | cons op ops ih =>
    obtain ⟨answer, next⟩ := h.perform op
    obtain ⟨answers, last⟩ := ih next
    refine ⟨?_, ?_⟩
    · rw [RobotTable.performAll, answersAfter, answer, answers]
    · have joined : (op :: ops).filterMap Operation.declared? =
          op.declared?.toList ++ ops.filterMap Operation.declared? := by
        rw [List.filterMap_cons]
        cases op.declared? <;> rfl
      rw [joined, ← List.append_assoc]
      exact last

end Recalls

theorem perform_unchanged (t : RobotTable) (op : Operation) : op.declared?.isSome ∨ (t.perform op).2 = t := by
  cases op with
  | declare r => exact .inl rfl
  | isDeclared | robot | check | duplicates | snapshot => exact .inr rfl

/--
Whatever a new table has been asked, in any order, its robots are the first declaration of each name, all lookups
find these, and no others are found to be duplicates. A declaration of a name that was declared before is refused with
the first one of that name, and changes nothing; no other operation changes anything.
-/
theorem performAll_empty (ops : List Operation) :
    let t := (empty.performAll ops).2
    let declared := ops.filterMap Operation.declared?
    (empty.performAll ops).1 = answersAfter [] ops ∧
      (t.robots = firsts declared ∧ t.robots.Sublist declared ∧ t.Distinct) ∧
      (∀ name, t.robot? name = declared.find? (fun r => r.name == name) ∧
        t.isDeclared name = (t.robot? name).isSome ∧ t.snapshot.robot? name = t.robot? name) ∧
      t.duplicates = [] ∧
      (∀ r, t.perform (.declare r) = match declared.find? fun s => s.name == r.name with
        | some first => (.refused ⟨first, r⟩, t)
        | none => (.declared, ⟨t.robots ++ [r]⟩)) ∧
      ∀ op : Operation, op.declared?.isSome ∨ (t.perform op).2 = t := by
  intro t declared
  have new : empty.Recalls [] := rfl
  obtain ⟨answers, recalls⟩ := new.performAll ops
  rw [List.nil_append] at recalls
  have table : t = ⟨firsts declared⟩ := recalls.eq
  refine ⟨answers, ⟨recalls, ?_, ?_⟩, fun name => ⟨recalls.robot?_eq name, ?_, ?_⟩, ?_, ?_, ?_⟩
  · rw [table]
    exact firsts_sublist declared
  · rw [table]
    exact distinct_firsts declared
  · exact isDeclared_eq_isSome t name
  · exact robot?_snapshot t name
  · exact recalls.duplicates_eq_nil
  · exact recalls.perform_declare
  · exact perform_unchanged t

example : (empty.performAll [.declare ⟨"Arm", ⟨1, 7⟩, ⟨6, 3⟩⟩, .declare ⟨"arm", ⟨2, 7⟩, ⟨16, 3⟩⟩, .robot "ARM",
      .declare ⟨"Arm", ⟨3, 7⟩, ⟨26, 3⟩⟩]).1 =
    [.declared, .declared, .robot none, .refused ⟨⟨"Arm", ⟨1, 7⟩, ⟨6, 3⟩⟩, ⟨"Arm", ⟨3, 7⟩, ⟨26, 3⟩⟩⟩] := by decide

end ArmScript.RobotTable
