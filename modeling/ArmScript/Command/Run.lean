import ArmScript.Command.Config
import ArmScript.Command.Failure
import ArmScript.Command.Request

/-!
One run of the command: settings, script, report. Nothing is written before the settings and the script have
been read.
-/
set_option autoImplicit false

namespace ArmScript

inductive ConfigSource where
  | explicit (path : String)
  | workingDirectory
  | system (path : String)
  | defaults
  deriving DecidableEq, Repr

def localConfigPath : String := "robolang/config.toml"

/-- A path that was asked for comes first, then the working directory, then the system. -/
def Request.configSource (r : Request) (disk : Disk) : ConfigSource :=
  match r.config with
  | some path => .explicit path
  | none =>
    if (disk.look localConfigPath).isPresent then .workingDirectory
    else match disk.system with
      | some (path, found) => if found.isPresent then .system path else .defaults
      | none => .defaults

def ConfigSource.file? (disk : Disk) : ConfigSource → Option (String × Found)
  | .explicit path => some (path, disk.look path)
  | .workingDirectory => some (localConfigPath, disk.look localConfigPath)
  | .system _ => disk.system
  | .defaults => none

inductive Notice where
  | config (source : ConfigSource)
  | noSystemConfig (path : String)
  | noSystemPlace
  | checking (name : String)
  | clean (name : String)
  | analysis (record : Record)
  deriving DecidableEq, Repr

def Notice.line : Notice → LogLine
  | .config (.explicit path) => ⟨.info, "Loading configuration from explicit path", [("path", path)]⟩
  | .config .workingDirectory =>
    ⟨.info, "Loading configuration from local path", [("path", localConfigPath)]⟩
  | .config (.system path) => ⟨.info, "Loading configuration from system path", [("path", path)]⟩
  | .config .defaults => ⟨.debug, "No configuration file found, using default configuration", []⟩
  | .noSystemConfig path => ⟨.debug, "System configuration file not found", [("path", path)]⟩
  | .noSystemPlace => ⟨.debug, "Could not determine platform-specific config directory", []⟩
  | .checking name => ⟨.info, "Analyzing program", [("program", name)]⟩
  | .clean name => ⟨.info, "No problems found", [("program", name)]⟩
  | .analysis record => record.line

def ConfigSource.notices (disk : Disk) (source : ConfigSource) : List Notice :=
  match source, disk.system with
  | .defaults, some (path, _) => [.noSystemConfig path, .config source]
  | .defaults, none => [.noSystemPlace, .config source]
  | _, _ => [.config source]

def readOptions : Option (String × Found) → Except Failure ReportOptions
  | none => .ok .full
  | some (path, found) =>
    if !found.isPresent then .error (.config (.missing path))
    else match found.read with
      | .error cause => .error (.unreadable cause)
      | .ok text => match ReportOptions.ofToml? text with
        | some options => .ok options
        | none => .error (.config .malformed)

/-- The name and the text of the script. A file comes before a sample. -/
def Request.program (r : Request) (disk : Disk) : Except Failure (String × String) :=
  match r.input, r.sample with
  | some path, _ => match (disk.look path).read with
    | .ok source => .ok (path, source)
    | .error cause => .error (.unreadable cause)
  | none, some sample => .ok (sample.title, sample.source)
  | none, none => .error .noInput

def Request.reportOptions (r : Request) (settings : ReportOptions) : ReportOptions :=
  ⟨settings.tokens && !r.noTokens, settings.symbols && !r.noSymbols⟩

structure Outcome where
  report : String
  notices : List Notice
  failure : Option Failure
  deriving DecidableEq, Repr

def runProgram (name source : String) (options : ReportOptions) (notices : List Notice) : Outcome :=
  let analysis := analyze source
  let notices := notices ++ .checking name :: analysis.records.map .analysis
  if analysis.isClean then ⟨report name analysis options, notices ++ [.clean name], none⟩
  else ⟨report name analysis options, notices, some (.analysis name source analysis.diagnostics)⟩

def run (r : Request) (disk : Disk) : Outcome :=
  let source := r.configSource disk
  let notices := source.notices disk
  match readOptions (source.file? disk) with
  | .error failure => ⟨"", notices, some failure⟩
  | .ok settings => match r.program disk with
    | .error failure => ⟨"", notices, some failure⟩
    | .ok (name, text) => runProgram name text (r.reportOptions settings) notices

end ArmScript
