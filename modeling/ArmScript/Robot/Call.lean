import ArmScript.Robot.Table
import ArmScript.Text.Integer
import ArmScript.Token.Basic

set_option autoImplicit false

namespace ArmScript

inductive CallFault where
  | undeclared (robot : Token)
  | fractional (method : Method) (argument : Token)
  | outOfRange (method : Method) (range : ValueRange) (argument : Token)
  deriving DecidableEq, Repr

def ValueRange.advice (r : ValueRange) : String :=
  match r.greatest with
  | some g => s!"use a value between {r.least} and {g}"
  | none => s!"use a value of at least {r.least}"

def CallFault.diagnostic : CallFault → Diagnostic
  | .undeclared robot =>
    .coded .e200 robot.position s!"robot `{robot.lexeme}` is not declared" robot.span
      Code.e200.description (some s!"declare it first: `Robot {robot.lexeme}`")
  | .fractional method argument =>
    .coded .e203 argument.position
      s!"malformed numeric argument `{argument.lexeme}` for method `{method.name}`: expected an integer"
      argument.span Code.e203.description
      (some "arguments are whole numbers; drop the fractional part")
  | .outOfRange method range argument =>
    .coded .e202 argument.position
      s!"value {argument.lexeme} is out of range {range.text} for method `{method.name}`"
      argument.span Code.e202.description (some range.advice)

/-- A number with a point is no value. One too large to be read lies outside of every range. -/
def checkArgument (method : Method) (range : ValueRange) (argument : Token) : Option CallFault :=
  if argument.lexeme.toList.contains '.' then some (.fractional method argument)
  else if (Text.readInteger? argument.lexeme.toList).any range.contains then none
  else some (.outOfRange method range argument)

def RobotTable.checkCall (t : RobotTable) (robot : Token) (method : Method) (argument : Option Token) :
    List CallFault :=
  (if t.isDeclared robot.lexeme then [] else [.undeclared robot]) ++
    match argument, method.range with
    | some argument, some range => (checkArgument method range argument).toList
    | _, _ => []

end ArmScript
