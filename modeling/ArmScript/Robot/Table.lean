import ArmScript.Diagnostic.Basic
import ArmScript.Method

set_option autoImplicit false

namespace ArmScript

structure Robot where
  name : String
  position : Position
  span : Span
  deriving DecidableEq, Repr

structure DuplicateRobot where
  first : Robot
  duplicate : Robot
  deriving DecidableEq, Repr

def DuplicateRobot.message (d : DuplicateRobot) : String :=
  s!"robot `{d.duplicate.name}` is already declared (first declared at {d.first.position.text})"

def DuplicateRobot.diagnostic (d : DuplicateRobot) : Diagnostic :=
  (Diagnostic.coded .e201 d.duplicate.position d.message d.duplicate.span Code.e201.description
    (some "remove the second declaration or pick another name")).withSecondaryLabel
      d.first.span "first declared here"

structure RobotTable where
  robots : List Robot
  deriving DecidableEq, Repr

structure Symbols where
  robots : List Robot
  methods : List Signature
  deriving DecidableEq, Repr

def Symbols.robot? (s : Symbols) (name : String) : Option Robot := s.robots.find? fun r => r.name == name

namespace RobotTable

def empty : RobotTable := ⟨[]⟩

def robot? (t : RobotTable) (name : String) : Option Robot := t.robots.find? fun r => r.name == name

def isDeclared (t : RobotTable) (name : String) : Bool := t.robots.any fun r => r.name == name

def declare (t : RobotTable) (r : Robot) : Except DuplicateRobot RobotTable :=
  match t.robot? r.name with
  | some first => .error ⟨first, r⟩
  | none => .ok ⟨t.robots ++ [r]⟩

def snapshot (t : RobotTable) : Symbols := ⟨t.robots, catalog⟩

/-- Each robot whose name an earlier one has, with the first robot of that name. -/
def duplicatesFrom (seen : List Robot) : List Robot → List DuplicateRobot
  | [] => []
  | r :: rest =>
    match seen.find? fun s => s.name == r.name with
    | some first => ⟨first, r⟩ :: duplicatesFrom seen rest
    | none => duplicatesFrom (seen ++ [r]) rest

def duplicates (t : RobotTable) : List DuplicateRobot := duplicatesFrom [] t.robots

theorem isDeclared_eq_isSome (t : RobotTable) (name : String) :
    t.isDeclared name = (t.robot? name).isSome := by
  unfold robot?
  rw [Bool.eq_iff_iff, List.find?_isSome, isDeclared, List.any_eq_true]

theorem robot?_snapshot (t : RobotTable) (name : String) : t.snapshot.robot? name = t.robot? name := rfl

end RobotTable

end ArmScript
