import ArmScript.Log
import ArmScript.Script.Event
import ArmScript.Text.Escape

set_option autoImplicit false

namespace ArmScript

inductive Record where
  | analyzing (bytes : Nat)
  | lexing (bytes : Nat)
  | lexed (tokens errors : Nat)
  | parsing (tokens : Nat)
  | declaration (robot : String)
  | declared (robot : String) (position : Position)
  | call (robot : String) (method : Method) (line : Nat)
  | checking (robot : String) (method : Method) (argument : Option String)
  | recovering (recovery : Recovery) (diagnostic : Diagnostic)
  | parsed (statements diagnostics : Nat)
  | analyzed (statements robots diagnostics : Nat)
  deriving DecidableEq, Repr

def argumentText : Option String → String
  | none => "None"
  | some text => "Some(" ++ Text.quoted text ++ ")"

def Recovery.message : Recovery → String
  | .statement => "Recovering from syntax error"
  | .header => "Recovering from malformed repeat header"

def Record.line : Record → LogLine
  | .analyzing bytes => ⟨.debug, "Analyzing source", [("bytes", toString bytes)]⟩
  | .lexing bytes => ⟨.debug, "Lexing source", [("bytes", toString bytes)]⟩
  | .lexed tokens errors =>
    ⟨.debug, "Lexing finished", [("tokens", toString tokens), ("errors", toString errors)]⟩
  | .parsing tokens => ⟨.debug, "Parsing", [("tokens", toString tokens)]⟩
  | .declaration robot => ⟨.trace, "Robot declaration", [("robot", robot)]⟩
  | .declared robot position =>
    ⟨.debug, "Robot declared", [("robot", robot), ("position", position.text)]⟩
  | .call robot method line =>
    ⟨.trace, "Method call", [("robot", robot), ("method", method.name), ("line", toString line)]⟩
  | .checking robot method argument =>
    ⟨.trace, "Validating call",
      [("robot", robot), ("method", method.name), ("argument", argumentText argument)]⟩
  | .recovering recovery diagnostic =>
    ⟨.trace, recovery.message, [("diagnostic", diagnostic.text)]⟩
  | .parsed statements diagnostics =>
    ⟨.debug, "Parsing finished",
      [("statements", toString statements), ("diagnostics", toString diagnostics)]⟩
  | .analyzed statements robots diagnostics =>
    ⟨.debug, "Analysis finished",
      [("statements", toString statements), ("robots", toString robots),
        ("diagnostics", toString diagnostics)]⟩

end ArmScript
