set_option autoImplicit false

namespace ArmScript

inductive Level where
  | error
  | warn
  | info
  | debug
  | trace
  deriving DecidableEq, Repr

def Level.name : Level → String
  | .error => "error"
  | .warn => "warn"
  | .info => "info"
  | .debug => "debug"
  | .trace => "trace"

def Level.rank : Level → Nat
  | .error => 1
  | .warn => 2
  | .info => 3
  | .debug => 4
  | .trace => 5

structure LogLine where
  level : Level
  message : String
  fields : List (String × String)
  deriving DecidableEq, Repr

/-- The least important level that is shown, if any is. -/
abbrev Threshold := Option Level

def Threshold.shows (threshold : Threshold) (level : Level) : Bool :=
  threshold.any fun least => decide (level.rank ≤ least.rank)

/-- Reads `off` or the name of a level. Case does not count. -/
def Threshold.ofText? (text : String) : Option Threshold :=
  if text.toLower = "off" then some none
  else ([.error, .warn, .info, .debug, .trace].find? fun l : Level => l.name == text.toLower).map some

end ArmScript
