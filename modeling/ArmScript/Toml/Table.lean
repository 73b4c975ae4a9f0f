/-!
Tables of named values, and the rules by which the lines of a TOML document may add to them. A name is given
once, and a table is opened once.
-/
set_option autoImplicit false

namespace ArmScript.Toml

/-- How a table came to be, which decides how it may still grow. -/
inductive Origin where
  /-- Opened by a header of its own. -/
  | header
  /-- Named on the way to another header. -/
  | implied
  /-- Named on the way to a value. -/
  | dotted
  /-- Written between braces, and complete. -/
  | inline
  deriving DecidableEq, Repr

inductive Value where
  | boolean (value : Bool)
  | number
  | moment
  | text (value : String)
  | array (items : List Value)
  /-- An array to which headers add tables. -/
  | tables (items : List Value)
  | table (origin : Origin) (entries : List (String × Value))

abbrev Entries := List (String × Value)

namespace Entries

def get? (entries : Entries) (key : String) : Option Value :=
  (entries.find? fun e => e.1 == key).map Prod.snd

def set (entries : Entries) (key : String) (value : Value) : Entries :=
  entries.map fun e => if e.1 == key then (key, value) else e

def add? (entries : Entries) (key : String) (value : Value) : Option Entries :=
  if (entries.get? key).isSome then none else some (entries ++ [(key, value)])

/-- Adds a value under a dotted key. The tables on the way may come from headers that only pass through them,
but the value itself goes into a table that a dotted key has made. -/
def addDotted? (entries : Entries) (value : Value) : List String → Option Entries
  | [] => none
  | [key] => entries.add? key value
  | key :: path =>
    match entries.get? key with
    | none => (addDotted? [] value path).map fun inner => entries ++ [(key, .table .dotted inner)]
    | some (.table .dotted inner) =>
      (addDotted? inner value path).map fun inner => entries.set key (.table .dotted inner)
    | some (.table .implied inner) =>
      if path.length = 1 then none
      else (addDotted? inner value path).map fun inner => entries.set key (.table .implied inner)
    | some _ => none

/-- Changes the table at the end of a path of headers, and makes the tables that are missing on the way. In an
array of tables the path leads through the last one. -/
def within? (entries : Entries) (change : Entries → Option Entries) : List String → Option Entries
  | [] => change entries
  | key :: path =>
    match entries.get? key with
    | none => (within? [] change path).map fun inner => entries ++ [(key, .table .implied inner)]
    | some (.table .inline _) => none
    | some (.table origin inner) =>
      (within? inner change path).map fun inner => entries.set key (.table origin inner)
    | some (.tables items) =>
      match items.getLast? with
      | some (.table origin inner) =>
        (within? inner change path).map fun inner =>
          entries.set key (.tables (items.dropLast ++ [.table origin inner]))
      | _ => none
    | some _ => none

def open? (key : String) (entries : Entries) : Option Entries :=
  match entries.get? key with
  | none => some (entries ++ [(key, .table .header [])])
  | some (.table .implied inner) => some (entries.set key (.table .header inner))
  | some _ => none

def extend? (key : String) (entries : Entries) : Option Entries :=
  match entries.get? key with
  | none => some (entries ++ [(key, .tables [.table .header []])])
  | some (.tables items) => some (entries.set key (.tables (items ++ [.table .header []])))
  | some _ => none

end Entries

end ArmScript.Toml
