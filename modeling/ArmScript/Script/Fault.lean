import ArmScript.Diagnostic.Basic
import ArmScript.Token.Basic

set_option autoImplicit false

namespace ArmScript

inductive Wanted where
  | statement
  | robotName
  | dot
  | methodName
  | number
  | openParen
  | closeParen
  | openBrace
  deriving DecidableEq, Repr

def Wanted.text : Wanted → String
  | .statement => "a statement"
  | .robotName => "a robot name"
  | .dot => "`.`"
  | .methodName => "a method name"
  | .number => "a number"
  | .openParen => "`(`"
  | .closeParen => "`)`"
  | .openBrace => "`\x7b`"

inductive Fault where
  /-- Another word stands where one was needed, or the script ends there. -/
  | unexpected (wanted : Wanted) (found : Token)
  /-- A name that no method has stands where a method is needed. -/
  | unknownMethod (found : Token)
  /-- As `unexpected`, between `repetir` and the block it repeats. -/
  | badHeader (robot : Token) (wanted : Wanted) (found : Token)
  | missingValue (robot : Token) (method : Method) (name : Token)
  | unexpectedValue (robot : Token) (method : Method) (found : Token)
  /-- A brace closes nothing. -/
  | strayBrace (brace : Token)
  /-- A block is open where the script ends. -/
  | unclosedBlock (brace : Token) (stop : Token)
  deriving DecidableEq, Repr

def unexpectedCode (found : Token) : Code := if found.kind = .endOfInput then .e101 else .e100

def unexpectedDiagnostic (code : Code) (wanted : Wanted) (found : Token) (help : Option String) :
    Diagnostic :=
  .coded code found.position s!"expected {wanted.text}, found {found.describe}" found.span
    s!"expected {wanted.text}" help

def repeatHelp (robot : Token) : String := s!"write `{robot.lexeme}.repetir(3) \x7b ... \x7d`"

def statementHelp : String := "statements start with `Robot <name>` or `<robot>.<method>`"

def methodHelp : String :=
  "available methods: " ++ ", ".intercalate (Method.all.map Method.name)

def valueHelp (robot : Token) (method : Method) : String :=
  if method = .repetir then repeatHelp robot
  else
    let least : Int := (method.range.map ValueRange.least).getD 0
    s!"write `{robot.lexeme}.{method.name}({least})` or `{robot.lexeme}.{method.name} = {least}`"

def Fault.diagnostic : Fault → Diagnostic
  | .unexpected .statement found =>
    unexpectedDiagnostic (unexpectedCode found) .statement found (some statementHelp)
  | .unexpected wanted found => unexpectedDiagnostic (unexpectedCode found) wanted found none
  | .unknownMethod found => unexpectedDiagnostic .e104 .methodName found (some methodHelp)
  | .badHeader robot wanted found =>
    unexpectedDiagnostic (unexpectedCode found) wanted found (some (repeatHelp robot))
  | .missingValue robot method name =>
    .coded .e102 name.position s!"method `{method.name}` requires a value" name.span
      Code.e102.description (some (valueHelp robot method))
  | .unexpectedValue robot method found =>
    .coded .e103 found.position s!"method `{method.name}` does not take a value" found.span
      Code.e103.description (some s!"write `{robot.lexeme}.{method.name}`")
  | .strayBrace brace =>
    .coded .e100 brace.position "unexpected `\x7d` outside of a block" brace.span "no block to close" none
  | .unclosedBlock brace stop =>
    (Diagnostic.coded .e101 stop.position "unclosed block: expected `\x7d`, found end of input" stop.span
      "expected `\x7d`" (some "add `\x7d` to close the `repetir` block")).withSecondaryLabel
        brace.span "block opened here"

end ArmScript
