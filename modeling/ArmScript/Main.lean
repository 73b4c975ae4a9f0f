import ArmScript.Command.Launch
import ArmScript.Disk.Tree

/-!
The command on the disk of a machine. Here the files that a run may need are read before the run, and what it
leaves is written after it.
-/
set_option autoImplicit false

namespace ArmScript

def lookOnDisk (path : String) : IO Found := do
  try
    return readBytes (← IO.FS.readBinFile path)
  catch
    | .noFileOrDirectory .. => return .missing
    | .inappropriateType _ code _ =>
      return if code = 21 then .directory else .notDirectory
    | _ => return .missing

def systemConfigPath : IO (Option String) := do
  match ← IO.getEnv "XDG_CONFIG_HOME" with
  | some place => if place.startsWith "/" then return some s!"{place}/robolang/config.toml"
  | none => pure ()
  return (← IO.getEnv "HOME").map fun home => s!"{home}/.config/robolang/config.toml"

def neededPaths (args : List String) : List String :=
  match Request.ofArguments args with
  | .ok request => localConfigPath :: request.config.toList ++ request.input.toList
  | .error _ => []

def readDisk (args : List String) : IO Disk := do
  let files ← (neededPaths args).mapM fun path => return (path, ← lookOnDisk path)
  let system ← match ← systemConfigPath with
    | some path => pure (some (path, ← lookOnDisk path))
    | none => pure none
  return { look := fun path => (files.lookup path).getD .missing, system }

def showLine (line : LogLine) : String :=
  let fields := line.fields.map fun (key, value) => s!" {key}={value}"
  s!"[{line.level.name}] {line.message}" ++ String.join fields

def showReportable (r : Reportable) : String :=
  let help := (r.help.map fun text => s!"\n  help: {text}").getD ""
  s!"{r.code}\n  {r.text}" ++ help

end ArmScript

open ArmScript in
def main (args : List String) : IO UInt32 := do
  let ending := launch args (← readDisk args)
  if let some cause := ending.misuse then IO.eprintln s!"error: {cause.message}"
  if let some warning := ending.warning then IO.eprintln warning
  for notice in ending.notices do
    if ending.threshold.shows notice.line.level then IO.eprintln (showLine notice.line)
  IO.print ending.output
  for reportable in ending.reportables do
    IO.eprintln (showReportable reportable)
  return ending.status.toUInt32
