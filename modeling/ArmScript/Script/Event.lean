import ArmScript.Script.Fault

set_option autoImplicit false

namespace ArmScript

inductive Recovery where
  /-- At the next sentence. -/
  | statement
  /-- At the block of a `repetir` if it has one, else at the next sentence. -/
  | header
  deriving DecidableEq, Repr

inductive Event where
  | declaration (name : Token)
  /-- A complete call. The one of `repetir` comes before its block. -/
  | call (robot : Token) (method : Method) (argument : Option Token)
  | opened (brace : Token)
  | closed (brace : Token)
  | fault (cause : Fault) (recovery : Option Recovery)
  deriving DecidableEq, Repr

def Event.isStatement : Event → Bool
  | .declaration _ | .call _ _ _ => true
  | _ => false

def countStatements (events : List Event) : Nat := events.countP Event.isStatement

def Event.fault? : Event → Option Fault
  | .fault cause _ => some cause
  | _ => none

end ArmScript
