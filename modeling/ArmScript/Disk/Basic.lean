set_option autoImplicit false

namespace ArmScript

inductive Found where
  | text (content : String)
  /-- A file that is not UTF-8. -/
  | notText
  | directory
  | missing
  /-- The path leads through a file. -/
  | notDirectory
  deriving DecidableEq, Repr

def Found.isPresent : Found → Bool
  | .text _ | .notText | .directory => true
  | .missing | .notDirectory => false

inductive ReadFault where
  | missing
  | directory
  | notDirectory
  | notText
  deriving DecidableEq, Repr

def ReadFault.message : ReadFault → String
  | .missing => "No such file or directory (os error 2)"
  | .directory => "Is a directory (os error 21)"
  | .notDirectory => "Not a directory (os error 20)"
  | .notText => "stream did not contain valid UTF-8"

def Found.read : Found → Except ReadFault String
  | .text content => .ok content
  | .notText => .error .notText
  | .directory => .error .directory
  | .missing => .error .missing
  | .notDirectory => .error .notDirectory

/-- Everything under its path, and the place that the system keeps settings in, if it has one. -/
structure Disk where
  look : String → Found
  system : Option (String × Found)

end ArmScript
