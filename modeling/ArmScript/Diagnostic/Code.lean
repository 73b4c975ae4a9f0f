set_option autoImplicit false

namespace ArmScript

inductive Stage where
  | lexical
  | grammar
  | semantic
  deriving DecidableEq, Repr

def Stage.text : Stage → String
  | .lexical => "lexical"
  | .grammar => "syntax"
  | .semantic => "semantic"

inductive Code where
  | e001
  | e100
  | e101
  | e102
  | e103
  | e104
  | e200
  | e201
  | e202
  | e203
  deriving DecidableEq, Repr

def Code.all : List Code := [.e001, .e100, .e101, .e102, .e103, .e104, .e200, .e201, .e202, .e203]

def Code.text : Code → String
  | .e001 => "E001"
  | .e100 => "E100"
  | .e101 => "E101"
  | .e102 => "E102"
  | .e103 => "E103"
  | .e104 => "E104"
  | .e200 => "E200"
  | .e201 => "E201"
  | .e202 => "E202"
  | .e203 => "E203"

def Code.ofText? (text : String) : Option Code := Code.all.find? fun c => c.text == text

def Code.description : Code → String
  | .e001 => "unexpected character"
  | .e100 => "unexpected token"
  | .e101 => "unexpected end of input"
  | .e102 => "missing value"
  | .e103 => "unexpected value"
  | .e104 => "unknown method"
  | .e200 => "undeclared robot"
  | .e201 => "duplicate declaration"
  | .e202 => "value out of range"
  | .e203 => "malformed numeric argument"

def Code.stage : Code → Stage
  | .e001 => .lexical
  | .e100 | .e101 | .e102 | .e103 | .e104 => .grammar
  | .e200 | .e201 | .e202 | .e203 => .semantic

end ArmScript
