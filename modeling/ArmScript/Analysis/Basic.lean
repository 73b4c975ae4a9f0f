import ArmScript.Analysis.Session
import ArmScript.Token.Stream

set_option autoImplicit false

namespace ArmScript

structure Analysis where
  tokens : List Token
  diagnostics : List Diagnostic
  symbols : Symbols
  records : List Record
  deriving DecidableEq, Repr

def Analysis.isClean (a : Analysis) : Bool := a.diagnostics.isEmpty

def lexingRecords (source : String) (tokens : List Token) : List Record :=
  [.lexing source.utf8ByteSize, .lexed tokens.length (invalidTokens tokens).length]

def analyze (source : String) : Analysis :=
  let tokens := tokenize source
  let notes := .analyzing source.utf8ByteSize :: lexingRecords source tokens
  match Session.empty.analyze tokens with
  | .ok reading =>
    ⟨tokens, reading.session.diagnostics, reading.session.robots.snapshot, notes ++ reading.records⟩
  | .error e => ⟨tokens, [e.diagnostic], RobotTable.empty.snapshot, notes⟩

end ArmScript
