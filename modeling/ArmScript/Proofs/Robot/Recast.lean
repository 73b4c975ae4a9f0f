import Mathlib.Logic.Function.Basic
import ArmScript.Robot.Table

set_option autoImplicit false

namespace ArmScript

/-- Other names for names and other places for places. Different names stay different, and the end that words get that
have none stays at their end. -/
structure Recast where
  name : String → String
  position : Position → Position
  span : Span → Span
  name_injective : Function.Injective name
  position_start : position .start = .start
  span_start : span ⟨0, 0⟩ = ⟨0, 0⟩
  span_stop (s : Span) : span ⟨s.stop, s.stop⟩ = ⟨(span s).stop, (span s).stop⟩

def Recast.ofNames {r : String → String} (injective : Function.Injective r) : Recast where
  name := r
  position := id
  span := id
  name_injective := injective
  position_start := rfl
  span_start := rfl
  span_stop _ := rfl

def Recast.unspanned : Recast :=
  { ofNames Function.injective_id with span := fun _ => ⟨0, 0⟩, span_start := rfl, span_stop := fun _ => rfl }

namespace Recast
variable (c : Recast)

def robot (r : Robot) : Robot := ⟨c.name r.name, c.position r.position, c.span r.span⟩

def table (t : RobotTable) : RobotTable := ⟨t.robots.map c.robot⟩

section Table
variable (t : RobotTable)

theorem robot?_table (name : String) : (c.table t).robot? (c.name name) = (t.robot? name).map c.robot := by
  have same : ∀ r : Robot, ((c.robot r).name == c.name name) = (r.name == name) := fun r => by
    simp only [robot, Bool.beq_eq_decide_eq, c.name_injective.eq_iff]
  simp only [RobotTable.robot?, table, List.find?_map, Function.comp_def, same]

theorem isDeclared_table (name : String) : (c.table t).isDeclared (c.name name) = t.isDeclared name := by
  rw [RobotTable.isDeclared_eq_isSome, c.robot?_table, Option.isSome_map, RobotTable.isDeclared_eq_isSome]

theorem declare_table (r : Robot) :
    (c.table t).declare (c.robot r) = match t.declare r with
      | .ok left => .ok (c.table left)
      | .error cause => .error ⟨c.robot cause.first, c.robot cause.duplicate⟩ := by
  have look : (c.table t).robot? (c.robot r).name = (t.robot? r.name).map c.robot := c.robot?_table t r.name
  rw [RobotTable.declare, RobotTable.declare, look]
  cases t.robot? r.name with
  | none => simp [table]
  | some first => rfl

end Table

end Recast

end ArmScript
