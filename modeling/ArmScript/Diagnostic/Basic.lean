import ArmScript.Diagnostic.Code
import ArmScript.Source.Position
import ArmScript.Source.Span

set_option autoImplicit false

namespace ArmScript

structure Label where
  span : Span
  text : String
  isPrimary : Bool
  deriving DecidableEq, Repr

structure Diagnostic where
  stage : Stage
  code : Option Code
  message : String
  position : Position
  labels : List Label
  help : Option String
  deriving DecidableEq, Repr

namespace Diagnostic

def plain (stage : Stage) (position : Position) (message : String) : Diagnostic :=
  ⟨stage, none, message, position, [], none⟩

/-- A diagnostic takes codes of its own stage only. -/
def withCode? (d : Diagnostic) (c : Code) : Option Diagnostic :=
  if c.stage = d.stage then some { d with code := some c } else none

def withLabel (d : Diagnostic) (span : Span) (text : String) : Diagnostic :=
  { d with labels := d.labels ++ [⟨span, text, true⟩] }

def withSecondaryLabel (d : Diagnostic) (span : Span) (text : String) : Diagnostic :=
  { d with labels := d.labels ++ [⟨span, text, false⟩] }

def withHelp (d : Diagnostic) (help : String) : Diagnostic := { d with help := some help }

def text (d : Diagnostic) : String :=
  match d.code with
  | some c => s!"{d.stage.text}[{c.text}] at {d.position.text}: {d.message}"
  | none => s!"{d.stage.text} at {d.position.text}: {d.message}"

def coded (code : Code) (position : Position) (message : String) (span : Span) (label : String)
    (help : Option String) : Diagnostic :=
  ⟨code.stage, some code, message, position, [⟨span, label, true⟩], help⟩

end Diagnostic

def countStage (ds : List Diagnostic) (stage : Stage) : Nat := ds.countP fun d => d.stage == stage

theorem sum_countStage (ds : List Diagnostic) :
    countStage ds .lexical + countStage ds .grammar + countStage ds .semantic = ds.length := by
  induction ds with
  | nil => rfl
  | cons d ds ih =>
    simp only [countStage, List.countP_cons, List.length_cons] at ih ⊢
    cases d.stage <;> simp <;> omega

end ArmScript
