import ArmScript.Command.Run

set_option autoImplicit false

namespace ArmScript

structure Ending where
  status : Nat
  output : String
  misuse : Option UsageFault
  warning : Option String
  notices : List Notice
  reportables : List Reportable
  threshold : Threshold
  deriving DecidableEq, Repr

def versionText : String := "robolang-cli 0.1.0\n"

def helpText : String := "\n".intercalate
  ["Command-line interface for the Robolang robotic-arm command language",
   "",
   "Usage: robolang [OPTIONS] <INPUT|--sample <SAMPLE>>",
   "",
   "Arguments:",
   "  [INPUT]  Path to the input file",
   "",
   "Options:",
   "      --sample <SAMPLE>        Analyze a built-in sample program instead of a file [possible values: correct, lexical-errors, semantic-errors]",
   "  -c, --config <CONFIG>        Path to configuration file (TOML)",
   "      --no-tokens              Do not print the token table",
   "      --no-symbols             Do not print the symbol table",
   "      --log-level <LOG_LEVEL>  Log level (off, error, warn, info, debug, trace) [default: warn]",
   "  -h, --help                   Print help",
   "  -V, --version                Print version",
   ""]

/-- An unknown level is named in a warning, and warnings are shown then. -/
def levelWarning (level : String) : String := s!"Invalid log level: {level}. Using 'warn' instead."

def launch (args : List String) (disk : Disk) : Ending :=
  match Request.ofArguments args with
  | .error .help => ⟨0, helpText, none, none, [], [], none⟩
  | .error .version => ⟨0, versionText, none, none, [], [], none⟩
  | .error (.fault cause) => ⟨2, "", some cause, none, [], [], none⟩
  | .ok request =>
    let outcome := run request disk
    let threshold := Threshold.ofText? request.logLevel
    { status := if outcome.failure.isSome then 1 else 0
      output := outcome.report
      misuse := none
      warning := if threshold.isSome then none else some (levelWarning request.logLevel)
      notices := outcome.notices
      reportables := (outcome.failure.map Failure.reportables).getD []
      threshold := threshold.getD (some .warn) }

end ArmScript
