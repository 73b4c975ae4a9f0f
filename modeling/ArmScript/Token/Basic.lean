import ArmScript.Source.Span
import ArmScript.Source.Position
import ArmScript.Text.Columns
import ArmScript.Token.Kind

set_option autoImplicit false

namespace ArmScript

structure Token where
  lexeme : String
  kind : TokenKind
  position : Position
  span : Span
  deriving DecidableEq, Repr

def Token.describe (t : Token) : String :=
  match t.kind with
  | .identifier | .number | .invalid => s!"{t.kind.text} `{t.lexeme}`"
  | k => k.text

def Token.text (t : Token) : String :=
  Text.padRight 12 t.kind.label ++ " " ++ Text.padRight 16 s!"'{t.lexeme}'" ++ " " ++ t.position.text

end ArmScript
