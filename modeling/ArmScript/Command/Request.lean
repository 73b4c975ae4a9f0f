import ArmScript.Sample

/-!
Arguments of the command line. They are taken in from left to right. An option waits for its value until the
next argument shows whether it gets one, and only then is it checked; an argument that nothing is known about
is refused before an option that waits.
-/
set_option autoImplicit false

namespace ArmScript

structure Request where
  input : Option String
  sample : Option Sample
  config : Option String
  noTokens : Bool
  noSymbols : Bool
  logLevel : String
  deriving DecidableEq, Repr

inductive UsageFault where
  | missingProgram
  /-- Two programs, or one option twice. -/
  | conflict
  /-- No value where one is needed, or none of those that are known. -/
  | invalidValue
  /-- A value where none is taken. -/
  | tooManyValues
  | unknownArgument
  deriving DecidableEq, Repr

def UsageFault.message : UsageFault → String
  | .missingProgram => "a file or a sample is needed"
  | .conflict => "an argument does not go with an earlier one"
  | .invalidValue => "an option has no value that it can take"
  | .tooManyValues => "an option that takes no value has one"
  | .unknownArgument => "an argument is not known"

inductive Refusal where
  | help
  | version
  | fault (cause : UsageFault)
  deriving DecidableEq, Repr

inductive Setting where
  | sample
  | config
  | logLevel
  deriving DecidableEq, Repr

inductive Switch where
  | noTokens
  | noSymbols
  | help
  | version
  deriving DecidableEq, Repr

inductive OptionName where
  | setting (s : Setting)
  | switch (s : Switch)
  deriving DecidableEq, Repr

def longOption? (name : String) : Option OptionName :=
  if name = "sample" then some (.setting .sample)
  else if name = "config" then some (.setting .config)
  else if name = "log-level" then some (.setting .logLevel)
  else if name = "no-tokens" then some (.switch .noTokens)
  else if name = "no-symbols" then some (.switch .noSymbols)
  else if name = "help" then some (.switch .help)
  else if name = "version" then some (.switch .version)
  else none

def shortOption? : Char → Option OptionName
  | 'c' => some (.setting .config)
  | 'h' => some (.switch .help)
  | 'V' => some (.switch .version)
  | _ => none

inductive Argument where
  /-- Two dashes; no argument behind them is an option. -/
  | endOfOptions
  | option (name : Option OptionName) (value : Option String)
  | word (text : String)
  deriving DecidableEq, Repr

/-- A long option has its value behind an equals sign, a short one directly behind its letter or behind an
equals sign. What follows the letter of a switch does not count. A single dash is a word. -/
def Argument.ofText (text : String) : Argument :=
  match text.toList with
  | ['-', '-'] => .endOfOptions
  | '-' :: '-' :: rest =>
    let name := rest.takeWhile (· != '=')
    let value := if rest.contains '=' then some (String.ofList (rest.drop (name.length + 1))) else none
    .option (longOption? (String.ofList name)) value
  | '-' :: letter :: rest =>
    match shortOption? letter with
    | some (.setting setting) =>
      let value := if rest.head? = some '=' then rest.tail else rest
      .option (some (.setting setting)) (if rest.isEmpty then none else some (String.ofList value))
    | name => .option name none
  | _ => .word text

/-- What has been taken in, and the option that waits with the value it has got. -/
structure Intake where
  input : Option String
  sample : Option Sample
  config : Option String
  logLevel : Option String
  noTokens : Bool
  noSymbols : Bool
  waiting : Option (Setting × Option String)
  deriving DecidableEq, Repr

namespace Intake

def empty : Intake := ⟨none, none, none, none, false, false, none⟩

def refuse {α : Type} (cause : UsageFault) : Except Refusal α := .error (.fault cause)

def store (s : Intake) (setting : Setting) (value : String) : Except Refusal Intake :=
  match setting with
  | .sample =>
    if s.sample.isSome then refuse .conflict
    else match Sample.ofName? value with
      | some sample => .ok { s with sample := some sample }
      | none => refuse .invalidValue
  | .config => if s.config.isSome then refuse .conflict else .ok { s with config := some value }
  | .logLevel => if s.logLevel.isSome then refuse .conflict else .ok { s with logLevel := some value }

def settle (s : Intake) : Except Refusal Intake :=
  match s.waiting with
  | none => .ok s
  | some (_, none) => refuse .invalidValue
  | some (setting, some value) => ({ s with waiting := none }).store setting value

def turnOn (s : Intake) : Switch → Except Refusal Intake
  | .noTokens => if s.noTokens then refuse .conflict else .ok { s with noTokens := true }
  | .noSymbols => if s.noSymbols then refuse .conflict else .ok { s with noSymbols := true }
  | .help => .error .help
  | .version => .error .version

def addWord (s : Intake) (word : String) : Except Refusal Intake :=
  if s.input.isSome then refuse .unknownArgument
  else s.settle.map fun s => { s with input := some word }

def addOption (s : Intake) (name : Option OptionName) (value : Option String) : Except Refusal Intake :=
  match name, value with
  | none, _ => refuse .unknownArgument
  | some (.setting setting), some value => s.settle.bind fun s => s.store setting value
  | some (.setting setting), none => s.settle.map fun s => { s with waiting := some (setting, none) }
  | some (.switch _), some _ => refuse .tooManyValues
  | some (.switch switch), none => s.settle.bind fun s => s.turnOn switch

def addText (s : Intake) (word : String) : Except Refusal Intake :=
  match s.waiting with
  | some (setting, none) => .ok { s with waiting := some (setting, some word) }
  | _ => s.addWord word

/-- Takes in all arguments. Behind two dashes each of them is a word, and none is the value of an option. -/
def addAll (s : Intake) : List String → Except Refusal Intake
  | [] => s.settle
  | arg :: args =>
    match Argument.ofText arg with
    | .endOfOptions => (args.foldlM addWord s).bind settle
    | .option name value => (s.addOption name value).bind fun s => s.addAll args
    | .word word => (s.addText word).bind fun s => s.addAll args

def request (s : Intake) : Except Refusal Request :=
  match s.input, s.sample with
  | some _, some _ => refuse .conflict
  | none, none => refuse .missingProgram
  | _, _ => .ok ⟨s.input, s.sample, s.config, s.noTokens, s.noSymbols, s.logLevel.getD "warn"⟩

end Intake

def Request.ofArguments (args : List String) : Except Refusal Request :=
  (Intake.empty.addAll args).bind Intake.request

end ArmScript
