import ArmScript.Toml.Scalar

/-!
Keys, values and lines of a TOML document. Every reader gives what it has read and what follows, or nothing when
the text is not well formed.
-/
set_option autoImplicit false

namespace ArmScript.Toml

def isSpace (c : Char) : Bool := c == ' ' || c == '\t'

def skipSpace (cs : List Char) : List Char := cs.dropWhile isSpace

def skipComment : List Char → List Char
  | '#' :: cs => cs.dropWhile isUnescaped
  | cs => cs

def readLineEnd? (cs : List Char) : Option (List Char) :=
  match skipComment (skipSpace cs) with
  | [] => some []
  | '\n' :: rest => some rest
  | '\r' :: '\n' :: rest => some rest
  | _ => none

def skipLayout (fuel : Nat) (cs : List Char) : List Char :=
  match fuel with
  | 0 => cs
  | fuel + 1 =>
    match skipComment (skipSpace cs) with
    | '\n' :: rest => skipLayout fuel rest
    | '\r' :: '\n' :: rest => skipLayout fuel rest
    | rest => rest

def layout (cs : List Char) : List Char := skipLayout cs.length cs

def isBareKey (c : Char) : Bool := c.isAlphanum || c == '_' || c == '-'

def readKeyPart? (cs : List Char) : Option (String × List Char) :=
  if cs.head? = some '"' || cs.head? = some '\'' then
    (readLineText cs).map fun (text, rest) => (String.ofList text, rest)
  else
    let word := cs.takeWhile isBareKey
    if word.isEmpty then none else some (String.ofList word, cs.dropWhile isBareKey)

def readKey? (fuel : Nat) (cs : List Char) : Option (List String × List Char) :=
  match fuel with
  | 0 => none
  | fuel + 1 => do
    let (part, cs) ← readKeyPart? cs
    match skipSpace cs with
    | '.' :: rest =>
      let (parts, rest) ← readKey? fuel (skipSpace rest)
      some (part :: parts, rest)
    | _ => some ([part], cs)

def readDottedKey? (cs : List Char) : Option (List String × List Char) := readKey? (cs.length + 1) cs

def maxDepth : Nat := 80

mutual

/-- A value. Every reading step takes one unit of fuel. -/
def readValue? (fuel depth : Nat) (cs : List Char) : Option (Value × List Char) :=
  match fuel with
  | 0 => none
  | fuel + 1 =>
    match cs with
    | '"' :: _ | '\'' :: _ =>
      (readText cs).map fun (text, rest) => (.text (String.ofList text), rest)
    | '[' :: rest =>
      if depth = 0 then none
      else (readItems? fuel (depth - 1) (layout rest)).map fun (items, rest) => (.array items, rest)
    | '{' :: rest =>
      if depth = 0 then none
      else (readEntries? fuel (depth - 1) [] (layout rest)).map fun (entries, rest) =>
        (.table .inline entries, rest)
    | _ => readScalar? cs

/-- The items of an array and its closing bracket. A comma may follow the last item. -/
def readItems? (fuel depth : Nat) (cs : List Char) : Option (List Value × List Char) :=
  match fuel with
  | 0 => none
  | fuel + 1 =>
    match cs with
    | ']' :: rest => some ([], rest)
    | _ => do
      let (item, cs) ← readValue? fuel depth cs
      match layout cs with
      | ',' :: rest =>
        let (items, rest) ← readItems? fuel depth (layout rest)
        some (item :: items, rest)
      | ']' :: rest => some ([item], rest)
      | _ => none

def readEntries? (fuel depth : Nat) (entries : Entries) (cs : List Char) :
    Option (Entries × List Char) :=
  match fuel with
  | 0 => none
  | fuel + 1 =>
    match cs with
    | '}' :: rest => some (entries, rest)
    | _ => do
      let (key, cs) ← readDottedKey? cs
      let cs ← readMark? '=' (skipSpace cs)
      let (value, cs) ← readValue? fuel depth (skipSpace cs)
      let entries ← entries.addDotted? value key
      match layout cs with
      | ',' :: rest => readEntries? fuel depth entries (layout rest)
      | '}' :: rest => some (entries, rest)
      | _ => none

end

inductive Line where
  | entry (key : List String) (value : Value)
  | opening (path : List String)
  | element (path : List String)

def readLine? (cs : List Char) : Option (Line × List Char) :=
  match cs with
  | '[' :: '[' :: rest => do
    let (path, rest) ← readDottedKey? (skipSpace rest)
    let rest ← readMark? ']' (skipSpace rest)
    let rest ← readMark? ']' rest
    some (.element path, rest)
  | '[' :: rest => do
    let (path, rest) ← readDottedKey? (skipSpace rest)
    let rest ← readMark? ']' (skipSpace rest)
    some (.opening path, rest)
  | _ => do
    let (key, rest) ← readDottedKey? cs
    let rest ← readMark? '=' (skipSpace rest)
    let (value, rest) ← readValue? (rest.length + 1) maxDepth (skipSpace rest)
    some (.entry key value, rest)

def readLines? (fuel : Nat) (cs : List Char) : Option (List Line) :=
  match fuel with
  | 0 => none
  | fuel + 1 =>
    match layout cs with
    | [] => some []
    | cs => do
      let (line, rest) ← readLine? cs
      let rest ← readLineEnd? rest
      let lines ← readLines? fuel rest
      some (line :: lines)

end ArmScript.Toml
