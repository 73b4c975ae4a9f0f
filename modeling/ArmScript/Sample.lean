set_option autoImplicit false

namespace ArmScript

inductive Sample where
  | correct
  | lexicalErrors
  | semanticErrors
  deriving DecidableEq, Repr

def Sample.all : List Sample := [.correct, .lexicalErrors, .semanticErrors]

def Sample.name : Sample → String
  | .correct => "correct"
  | .lexicalErrors => "lexical-errors"
  | .semanticErrors => "semantic-errors"

def Sample.ofName? (name : String) : Option Sample := Sample.all.find? fun s => s.name == name

def Sample.title (s : Sample) : String := s!"<sample:{s.name}>"

def correctLines : List String :=
  ["Robot r1", "Robot r2", "", "r1.base = 90", "r1.cuerpo = 45", "r1.garra = 30",
   "r1.velocidad = 50", "", "r1.iniciar", "r1.base(180)", "r1.cuerpo(90)", "r1.abrirGarra()",
   "r1.cerrarGarra()", "", "r1.repetir(5) \x7b", "    r1.base(45)", "    r1.cuerpo(30)",
   "    r1.garra(15)", "\x7d", "", "r1.detener"]

def lexicalErrorLines : List String :=
  ["Robot r1", "Robot r2", "", "r1.base = 90", "r1.cuerpo = 45",
   "r1.garra = @30  // Carácter no válido", "r1.velocidad = 50.5.5  // Número malformado", "",
   "r1.iniciar", "r1.base(180)", "r1.cuerpo(90)",
   "r1.metodoInexistente()  // Método no reconocido", "r1.abrirGarra()",
   "r1.$cerrarGarra()  // Símbolo no válido", "", "r1.repetir(5) \x7b",
   "    r1.base(#45)  // Carácter no válido", "    r1.cuerpo(30)", "    r1.garra(15)", "\x7d", "",
   "r1.detener"]

def semanticErrorLines : List String :=
  ["Robot r1", "Robot r1  // Error: robot duplicado", "",
   "r1.base = 500  // Error: valor fuera de rango (0-360)", "r1.cuerpo = 45",
   "r1.garra = 100  // Error: valor fuera de rango (0-90)",
   "r1.velocidad = 0  // Error: valor fuera de rango (1-100)", "",
   "r3.iniciar  // Error: robot no declarado", "r1.iniciar",
   "r1.base(400)  // Error: valor fuera de rango (0-360)", "r1.cuerpo(90)", "r1.abrirGarra()",
   "r1.cerrarGarra()", "", "r1.repetir(0) \x7b  // Error: valor inválido (debe ser > 0)",
   "    r1.base(45)", "    r1.cuerpo(30)", "    r1.garra(15)", "\x7d", "", "r1.detener"]

def Sample.lines : Sample → List String
  | .correct => correctLines
  | .lexicalErrors => lexicalErrorLines
  | .semanticErrors => semanticErrorLines

def Sample.source (s : Sample) : String := String.join (s.lines.map fun line => line ++ "\n")

end ArmScript
