import ArmScript.Text.Alphabetic
import ArmScript.Text.Numeric
import ArmScript.Text.Unprintable
import ArmScript.Text.Joining

set_option autoImplicit false

namespace ArmScript.Text

/-- The `White_Space` property. -/
def blankRanges : List (Nat × Nat) :=
  [(0x9, 0xD), (0x20, 0x20), (0x85, 0x85), (0xA0, 0xA0), (0x1680, 0x1680), (0x2000, 0x200A),
   (0x2028, 0x2029), (0x202F, 0x202F), (0x205F, 0x205F), (0x3000, 0x3000)]

def isBlank (c : Char) : Bool := inRanges c.toNat blankRanges

def isAlphabetic (c : Char) : Bool := inRanges c.toNat alphabeticRanges

def isNumeric (c : Char) : Bool := inRanges c.toNat numericRanges

def isWordPart (c : Char) : Bool := isAlphabetic c || isNumeric c || c == '_'

def isPrintable (c : Char) : Bool := !inRanges c.toNat unprintableRanges

def isJoining (c : Char) : Bool := inRanges c.toNat joiningRanges

end ArmScript.Text
