set_option autoImplicit false

namespace ArmScript

inductive Method where
  | base
  | cuerpo
  | garra
  | velocidad
  | repetir
  | abrirGarra
  | cerrarGarra
  | iniciar
  | detener
  deriving DecidableEq, Repr

def Method.all : List Method :=
  [.base, .cuerpo, .garra, .velocidad, .repetir, .abrirGarra, .cerrarGarra, .iniciar, .detener]

def Method.name : Method → String
  | .base => "base"
  | .cuerpo => "cuerpo"
  | .garra => "garra"
  | .velocidad => "velocidad"
  | .repetir => "repetir"
  | .abrirGarra => "abrirGarra"
  | .cerrarGarra => "cerrarGarra"
  | .iniciar => "iniciar"
  | .detener => "detener"

theorem Method.name_injective {m n : Method} (h : m.name = n.name) : m = n := by
  cases m <;> cases n <;> first | rfl | exact absurd h (by decide)

def Method.ofName? (name : String) : Option Method := Method.all.find? fun m => m.name == name

@[simp] theorem Method.ofName?_name (m : Method) : Method.ofName? m.name = some m := by
  cases m <;> decide

theorem Method.ofName?_eq_some_iff {name : String} {m : Method} :
    Method.ofName? name = some m ↔ m.name = name := by
  constructor
  · intro h
    simpa using List.find?_some h
  · rintro rfl
    exact ofName?_name m

def Method.index (m : Method) : Nat := Method.all.idxOf m

structure UnknownMethod where
  name : String
  deriving DecidableEq, Repr

def UnknownMethod.message (e : UnknownMethod) : String := s!"unknown method `{e.name}`"

def Method.ofName (name : String) : Except UnknownMethod Method :=
  match Method.ofName? name with
  | some m => .ok m
  | none => .error ⟨name⟩

structure ValueRange where
  least : Int
  greatest : Option Int
  deriving DecidableEq, Repr

def ValueRange.contains (r : ValueRange) (value : Int) : Bool :=
  decide (r.least ≤ value) && r.greatest.all fun g => decide (value ≤ g)

def ValueRange.text (r : ValueRange) : String :=
  match r.greatest with
  | some g => s!"[{r.least}..{g}]"
  | none => s!"[{r.least}..+∞)"

theorem ValueRange.contains_iff {r : ValueRange} {value : Int} :
    r.contains value = true ↔ r.least ≤ value ∧ ∀ g, r.greatest = some g → value ≤ g := by
  obtain ⟨least, greatest⟩ := r
  cases greatest <;> simp [contains]

inductive Arity where
  | nullary
  | unary
  deriving DecidableEq, Repr

def Arity.count : Arity → Nat
  | .nullary => 0
  | .unary => 1

/-- How a method is called. It takes a value exactly when there is a range for it. -/
structure Signature where
  method : Method
  range : Option ValueRange
  deriving DecidableEq, Repr

def Signature.arity (s : Signature) : Arity := if s.range.isSome then .unary else .nullary

def Signature.takesValue (s : Signature) : Bool := s.range.isSome

def Method.range : Method → Option ValueRange
  | .base => some ⟨0, some 360⟩
  | .cuerpo => some ⟨0, some 180⟩
  | .garra => some ⟨0, some 90⟩
  | .velocidad => some ⟨1, some 100⟩
  | .repetir => some ⟨1, none⟩
  | .abrirGarra | .cerrarGarra | .iniciar | .detener => none

def Method.signature (m : Method) : Signature := ⟨m, m.range⟩

def catalog : List Signature := Method.all.map Method.signature

def catalog.get? (name : String) : Option Signature := (Method.ofName? name).map Method.signature

end ArmScript
