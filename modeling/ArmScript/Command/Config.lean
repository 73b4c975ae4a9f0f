import ArmScript.Report.Basic
import ArmScript.Toml.Document

set_option autoImplicit false

namespace ArmScript

def readSwitch? : Option Toml.Value → Option Bool
  | none => some true
  | some (.boolean value) => some value
  | some _ => none

def ReportOptions.ofSwitches? (tokens symbols : Option Toml.Value) : Option ReportOptions :=
  match readSwitch? tokens, readSwitch? symbols with
  | some tokens, some symbols => some ⟨tokens, symbols⟩
  | _, _ => none

/-- A table gives the settings by name and an array by place. A date sets nothing. -/
def ReportOptions.ofValue? : Toml.Value → Option ReportOptions
  | .table _ entries =>
    ReportOptions.ofSwitches? (Toml.Entries.get? entries "tokens") (Toml.Entries.get? entries "symbols")
  | .array items | .tables items => ReportOptions.ofSwitches? items[0]? items[1]?
  | .moment => some .full
  | _ => none

def ReportOptions.ofToml? (text : String) : Option ReportOptions :=
  (Toml.readDocument? text).bind fun entries =>
    match entries.get? "report" with
    | none => some .full
    | some value => ReportOptions.ofValue? value

end ArmScript
