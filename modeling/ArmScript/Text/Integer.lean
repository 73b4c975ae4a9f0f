set_option autoImplicit false

namespace ArmScript.Text

def readDigits (value : Nat) : List Char → Option Nat
  | [] => some value
  | c :: cs => if c.isDigit then readDigits (10 * value + (c.toNat - '0'.toNat)) cs else none

def readNatural? : List Char → Option Nat
  | [] => none
  | c :: cs => readDigits 0 (c :: cs)

def smallestInteger : Int := Int64.minValue.toInt

def largestInteger : Int := Int64.maxValue.toInt

/-- An optional sign and digits. Without a place among the sixty-four bit integers there is no value. -/
def readInteger? (cs : List Char) : Option Int :=
  let value : Option Int := match cs with
    | '-' :: digits => (readNatural? digits).map fun n => -(n : Int)
    | '+' :: digits => (readNatural? digits).map Int.ofNat
    | digits => (readNatural? digits).map Int.ofNat
  value.filter fun v => decide (smallestInteger ≤ v) && decide (v ≤ largestInteger)

end ArmScript.Text
