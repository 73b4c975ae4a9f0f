import ArmScript.Toml.Quoted
import ArmScript.Toml.Table

set_option autoImplicit false

namespace ArmScript.Toml

def isDigitRun (isDigit : Char → Bool) : List Char → Bool
  | [] => false
  | [c] => isDigit c
  | c :: '_' :: rest => isDigit c && isDigitRun isDigit rest
  | c :: rest => isDigit c && isDigitRun isDigit rest

def digitsValue (base : Nat) (digits : List Char) : Nat :=
  digits.foldl (fun value c => match hexDigit? c with
    | some d => base * value + d
    | none => value) 0

def dropSign : List Char → List Char
  | '+' :: rest => rest
  | '-' :: rest => rest
  | cs => cs

def isDecimalRun (cs : List Char) : Bool :=
  isDigitRun Char.isDigit cs && (cs.length == 1 || cs.head? != some '0')

/-- Integers reach as far as one hundred and twenty-eight bits do, with or without a sign. -/
def isInteger (cs : List Char) : Bool :=
  match cs with
  | '0' :: 'x' :: digits =>
    isDigitRun (fun c => (hexDigit? c).isSome) digits && decide (digitsValue 16 digits < Nat.pow 2 128)
  | '0' :: 'o' :: digits =>
    isDigitRun (fun c => decide ('0' ≤ c ∧ c ≤ '7')) digits && decide (digitsValue 8 digits < Nat.pow 2 128)
  | '0' :: 'b' :: digits =>
    isDigitRun (fun c => c == '0' || c == '1') digits && decide (digitsValue 2 digits < Nat.pow 2 128)
  | _ =>
    let digits := dropSign cs
    isDecimalRun digits &&
      if cs.head? = some '-' then decide (digitsValue 10 digits ≤ Nat.pow 2 127)
      else decide (digitsValue 10 digits < Nat.pow 2 128)

/-- Whether `digits` times a power of ten is too large for a double. The halfway point above the largest one
already is. -/
def exceedsDouble (digits : List Char) (exponent : Int) : Bool :=
  let value := digitsValue 10 digits
  let bound : Nat := Nat.pow 2 1024 - Nat.pow 2 970
  if value = 0 || exponent + digits.length < 300 then false
  else if 400 < exponent then true
  else if 0 ≤ exponent then decide (bound ≤ value * Nat.pow 10 exponent.toNat)
  else decide (bound * Nat.pow 10 (-exponent).toNat ≤ value)

def isExponentMark (c : Char) : Bool := c == 'e' || c == 'E'

def isFloat (cs : List Char) : Bool :=
  let cs := dropSign cs
  if cs = ['i', 'n', 'f'] || cs = ['n', 'a', 'n'] then true
  else
    let mantissa := cs.takeWhile fun c => !isExponentMark c
    let exponent := (cs.dropWhile fun c => !isExponentMark c).drop 1
    let whole := mantissa.takeWhile (· != '.')
    let fraction := (mantissa.dropWhile (· != '.')).drop 1
    let hasFraction := mantissa.contains '.'
    let hasExponent := cs.any isExponentMark
    let digits := (whole ++ fraction).filter (· != '_')
    let power : Int := digitsValue 10 (dropSign exponent)
    let power := (if exponent.head? = some '-' then -power else power) -
      (fraction.filter (· != '_')).length
    (hasFraction || hasExponent) && isDecimalRun whole &&
      (!hasFraction || isDigitRun Char.isDigit fraction) &&
      (!hasExponent || isDigitRun Char.isDigit (dropSign exponent)) && !exceedsDouble digits power

def readFixed? (n : Nat) (cs : List Char) : Option (Nat × List Char) :=
  let digits := cs.take n
  if digits.length = n && digits.all Char.isDigit then some (digitsValue 10 digits, cs.drop n) else none

def readMark? (mark : Char) : List Char → Option (List Char)
  | [] => none
  | c :: cs => if c = mark then some cs else none

def isLeapYear (year : Nat) : Bool := year % 4 == 0 && (year % 100 != 0 || year % 400 == 0)

def daysIn (year month : Nat) : Nat :=
  if month = 2 then (if isLeapYear year then 29 else 28)
  else if month = 4 || month = 6 || month = 9 || month = 11 then 30
  else 31

def readDate? (cs : List Char) : Option (List Char) := do
  let (year, cs) ← readFixed? 4 cs
  let cs ← readMark? '-' cs
  let (month, cs) ← readFixed? 2 cs
  let cs ← readMark? '-' cs
  let (day, cs) ← readFixed? 2 cs
  if 1 ≤ month && month ≤ 12 && 1 ≤ day && day ≤ daysIn year month then some cs else none

def readFraction? : List Char → Option (List Char)
  | '.' :: cs => if (cs.takeWhile Char.isDigit).isEmpty then none else some (cs.dropWhile Char.isDigit)
  | cs => some cs

def readTime? (cs : List Char) : Option (List Char) := do
  let (hour, cs) ← readFixed? 2 cs
  let cs ← readMark? ':' cs
  let (minute, cs) ← readFixed? 2 cs
  if hour ≤ 23 && minute ≤ 59 then
    match cs with
    | ':' :: cs =>
      let (second, cs) ← readFixed? 2 cs
      if second ≤ 60 then readFraction? cs else none
    | cs => some cs
  else none

def isOffset : List Char → Bool
  | [] => true
  | c :: cs =>
    if c = 'Z' || c = 'z' then cs.isEmpty
    else if c = '+' || c = '-' then
      match readFixed? 2 cs with
      | some (hour, ':' :: cs) => match readFixed? 2 cs with
        | some (minute, []) => hour ≤ 23 && minute ≤ 59
        | _ => false
      | _ => false
    else false

def isMoment (cs : List Char) : Bool :=
  match readDate? cs with
  | some [] => true
  | some (c :: cs) => (c = 'T' || c = 't' || c = ' ') && ((readTime? cs).map isOffset).getD false
  | none => readTime? cs == some []

def scalar? (cs : List Char) : Option Value :=
  if cs = "true".toList then some (.boolean true)
  else if cs = "false".toList then some (.boolean false)
  else if isInteger cs || isFloat cs then some .number
  else if isMoment cs then some .moment
  else none

def isScalarPart (c : Char) : Bool :=
  c.isAlphanum || c == '_' || c == '+' || c == '-' || c == ':' || c == '.'

/-- The bare word at the front. A blank may stand between a date and a time. -/
def readScalar? (cs : List Char) : Option (Value × List Char) :=
  let word := cs.takeWhile isScalarPart
  let rest := cs.dropWhile isScalarPart
  let joined := readDate? word = some [] && rest.head? = some ' ' &&
    ((rest.drop 1).head?.map Char.isDigit).getD false
  if joined then
    (scalar? (word ++ ' ' :: (rest.drop 1).takeWhile isScalarPart)).map fun v =>
      (v, (rest.drop 1).dropWhile isScalarPart)
  else (scalar? word).map fun v => (v, rest)

end ArmScript.Toml
