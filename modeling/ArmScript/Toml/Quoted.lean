set_option autoImplicit false

namespace ArmScript.Toml

structure QuoteForm where
  quote : Char
  raw : Bool
  multiline : Bool
  deriving DecidableEq, Repr

inductive QuoteState where
  | plain
  | escape
  /-- Digits of a code point that are still missing, and the value of those read. -/
  | code (missing value : Nat)
  /-- Blanks between a backslash and the end of its line. -/
  | foldLine
  /-- Blanks and line ends behind such a line. -/
  | fold
  deriving DecidableEq, Repr

def escapeChar? : Char → Option Char
  | 'b' => some '\x08'
  | 't' => some '\t'
  | 'n' => some '\n'
  | 'f' => some '\x0c'
  | 'r' => some '\r'
  | 'e' => some '\x1b'
  | '"' => some '"'
  | '\\' => some '\\'
  | _ => none

def codeLength? : Char → Option Nat
  | 'x' => some 2
  | 'u' => some 4
  | 'U' => some 8
  | _ => none

def hexDigit? (c : Char) : Option Nat :=
  if c.isDigit then some (c.toNat - '0'.toNat)
  else if 'a' ≤ c ∧ c ≤ 'f' then some (c.toNat - 'a'.toNat + 10)
  else if 'A' ≤ c ∧ c ≤ 'F' then some (c.toNat - 'A'.toNat + 10)
  else none

def isUnescaped (c : Char) : Bool := c == '\t' || (decide (' ' ≤ c) && c != '\x7f')

def isLineEnd (c : Char) (cs : List Char) : Bool := c == '\n' || (c == '\r' && cs.head? == some '\n')

def foldStep? (c : Char) (cs : List Char) : Option QuoteState :=
  if c = '\n' then some .fold
  else if c = ' ' || c = '\t' || isLineEnd c cs then some .foldLine
  else none

/-- Reads up to the closing quotes. A text over many lines may end in two quotes of its own. -/
def readQuoted (form : QuoteForm) : QuoteState → List Char → Option (List Char × List Char)
  | _, [] => none
  | .escape, c :: cs =>
    match escapeChar? c with
    | some d => (readQuoted form .plain cs).map fun (text, rest) => (d :: text, rest)
    | none => match codeLength? c with
      | some n => readQuoted form (.code n 0) cs
      | none =>
        if form.multiline then (foldStep? c cs).bind fun state => readQuoted form state cs else none
  | .code missing value, c :: cs =>
    (hexDigit? c).bind fun d =>
      let value := 16 * value + d
      if 1 < missing then readQuoted form (.code (missing - 1) value) cs
      else if value.isValidChar then
        (readQuoted form .plain cs).map fun (text, rest) => (Char.ofNat value :: text, rest)
      else none
  | .foldLine, c :: cs => (foldStep? c cs).bind fun state => readQuoted form state cs
  | state, c :: cs =>
    if state = .fold && (c = ' ' || c = '\t' || isLineEnd c cs) then readQuoted form .fold cs
    else if c = form.quote then
      if !form.multiline then some ([], cs)
      else if cs.take 2 = [form.quote, form.quote] then
        let own := ((cs.drop 2).take 2).takeWhile (· == form.quote)
        some (own, cs.drop (2 + own.length))
      else (readQuoted form .plain cs).map fun (text, rest) => (c :: text, rest)
    else if c = '\\' && !form.raw then readQuoted form .escape cs
    else if isUnescaped c || (form.multiline && isLineEnd c cs) then
      (readQuoted form .plain cs).map fun (text, rest) => (c :: text, rest)
    else none

def dropLineEnd : List Char → List Char
  | '\n' :: rest => rest
  | '\r' :: '\n' :: rest => rest
  | rest => rest

def readLineText : List Char → Option (List Char × List Char)
  | '"' :: rest => readQuoted ⟨'"', false, false⟩ .plain rest
  | '\'' :: rest => readQuoted ⟨'\'', true, false⟩ .plain rest
  | _ => none

def readText : List Char → Option (List Char × List Char)
  | '"' :: '"' :: '"' :: rest => readQuoted ⟨'"', false, true⟩ .plain (dropLineEnd rest)
  | '\'' :: '\'' :: '\'' :: rest => readQuoted ⟨'\'', true, true⟩ .plain (dropLineEnd rest)
  | cs => readLineText cs

end ArmScript.Toml
