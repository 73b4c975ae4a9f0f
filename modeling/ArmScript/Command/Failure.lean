import ArmScript.Diagnostic.Basic
import ArmScript.Disk.Basic

set_option autoImplicit false

namespace ArmScript

inductive ConfigFault where
  | malformed
  | missing (path : String)
  deriving DecidableEq, Repr

inductive Failure where
  | unreadable (cause : ReadFault)
  | config (cause : ConfigFault)
  | noInput
  /-- The script has been checked and is not clean. -/
  | analysis (name source : String) (diagnostics : List Diagnostic)
  deriving DecidableEq, Repr

def ConfigFault.message : ConfigFault → String
  | .malformed => "Failed to parse TOML configuration"
  | .missing path => s!"Missing configuration file: {path}"

def Failure.message : Failure → String
  | .unreadable cause => s!"I/O error: {cause.message}"
  | .config cause => cause.message
  | .noInput => "No input: pass a file path or `--sample <name>`"
  | .analysis name _ diagnostics => s!"{diagnostics.length} problem(s) found in {name}"

structure Mark where
  offset : Nat
  length : Nat
  text : String
  isPrimary : Bool
  deriving DecidableEq, Repr

/-- A label whose stretch runs backwards marks nothing. -/
def Label.mark? (l : Label) : Option Mark :=
  l.span.length?.map fun length => ⟨l.span.start, length, l.text, l.isPrimary⟩

/-- One problem for the reader: a finding in a script, shown with its source, or a failure without a place. -/
inductive Reportable where
  | finding (diagnostic : Diagnostic) (source : String)
  | failure (cause : Failure)
  deriving DecidableEq, Repr

namespace Reportable

def text : Reportable → String
  | .finding d _ => s!"{d.stage.text} error at {d.position.text}: {d.message}"
  | .failure cause => cause.message

def code : Reportable → String
  | .finding d _ => match d.code with
    | some c => s!"robolang::{d.stage.text}::{c.text}"
    | none => s!"robolang::{d.stage.text}"
  | .failure (.unreadable _) => "robolang::io"
  | .failure (.config _) => "robolang::config"
  | .failure .noInput => "robolang::usage"
  | .failure (.analysis _ _ _) => "robolang::analysis"

def help : Reportable → Option String
  | .finding d _ => d.help
  | .failure .noInput => some "try `robolang --sample correct`"
  | .failure (.config (.missing _)) => some "check the path given to `--config`"
  | .failure _ => none

def source? : Reportable → Option String
  | .finding _ source => some source
  | .failure _ => none

def marks? : Reportable → Option (List Mark)
  | .finding d _ => d.labels.mapM Label.mark?
  | .failure _ => some []

end Reportable

def Failure.reportables : Failure → List Reportable
  | .analysis _ source diagnostics => diagnostics.map fun d => .finding d source
  | cause => [.failure cause]

end ArmScript
