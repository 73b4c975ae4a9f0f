set_option autoImplicit false

namespace ArmScript

/-- From the first byte up to the one behind the last. Nothing keeps a stretch from being written backwards. -/
structure Span where
  start : Nat
  stop : Nat
  deriving DecidableEq, Repr

def Span.isEmpty (s : Span) : Bool := s.start == s.stop

def Span.length? (s : Span) : Option Nat := if s.start ≤ s.stop then some (s.stop - s.start) else none

end ArmScript
