import ArmScript.Analysis.Basic

set_option autoImplicit false

namespace ArmScript

structure ReportOptions where
  tokens : Bool
  symbols : Bool
  deriving DecidableEq, Repr

def ReportOptions.full : ReportOptions := ⟨true, true⟩

def tokenRow (index lexeme kind line column : String) : String :=
  Text.padLeft 4 index ++ "  " ++ Text.padRight 20 lexeme ++ " " ++ Text.padRight 12 kind ++ " " ++
    Text.padLeft 5 line ++ " " ++ Text.padLeft 6 column

def Token.row (index : Nat) (t : Token) : String :=
  tokenRow (toString index) t.lexeme t.kind.label (toString t.position.line)
    (toString t.position.column)

def tokenTable (tokens : List Token) : List String :=
  "Tokens" :: tokenRow "#" "LEXEME" "KIND" "LINE" "COLUMN" ::
    (tokens.zipIdx 1).map fun (t, index) => t.row index

def Robot.row (r : Robot) : String :=
  "  " ++ Text.padRight 16 r.name ++ " declared at " ++ r.position.text

def Signature.row (s : Signature) : String :=
  "  " ++ Text.padRight 12 s.method.name ++ " " ++ match s.range with
    | some range => s!"{s.arity.count} value   {range.text}"
    | none => "no value"

def symbolTable (symbols : Symbols) : List String :=
  "Robots" :: (if symbols.robots.isEmpty then ["  (none declared)"] else symbols.robots.map Robot.row) ++
    "" :: "Methods" :: symbols.methods.map Signature.row

def cleanSummary : String := "no problems found"

def summary (ds : List Diagnostic) : String :=
  if ds.isEmpty then cleanSummary
  else
    let plural := if ds.length = 1 then "" else "s"
    let lexical := countStage ds .lexical
    let grammar := countStage ds .grammar
    let semantic := countStage ds .semantic
    s!"{ds.length} problem{plural} found ({lexical} lexical, {grammar} syntax, {semantic} semantic)"

def reportLines (name : String) (a : Analysis) (options : ReportOptions) : List String :=
  name :: (if options.tokens then "" :: tokenTable a.tokens else []) ++
    (if options.symbols then "" :: symbolTable a.symbols else []) ++ ["", summary a.diagnostics]

def report (name : String) (a : Analysis) (options : ReportOptions) : String :=
  String.join ((reportLines name a options).map fun line => line ++ "\n")

end ArmScript
