import ArmScript.Text.Character

set_option autoImplicit false

namespace ArmScript.Text

/-- What is escaped besides backslashes, controls and characters that do not print. -/
structure EscapeRule where
  singleQuote : Bool
  doubleQuote : Bool
  joining : Bool
  deriving DecidableEq, Repr

def codePoint (c : Char) : List Char :=
  ['\\', 'u', '{'] ++ Nat.toDigits 16 c.toNat ++ ['}']

def EscapeRule.escape (rule : EscapeRule) (c : Char) : List Char :=
  if c = '\x00' then ['\\', '0']
  else if c = '\t' then ['\\', 't']
  else if c = '\r' then ['\\', 'r']
  else if c = '\n' then ['\\', 'n']
  else if c = '\\' then ['\\', '\\']
  else if c = '\'' && rule.singleQuote then ['\\', '\'']
  else if c = '"' && rule.doubleQuote then ['\\', '"']
  else if rule.joining && isJoining c then codePoint c
  else if isPrintable c then [c]
  else codePoint c

/-- A text inside a message. A joining mark stands alone only in first place, so only there it is escaped. -/
def visible (text : String) : String :=
  match text.toList with
  | [] => ""
  | c :: cs => String.ofList
      ((⟨true, true, true⟩ : EscapeRule).escape c ++ cs.flatMap (⟨true, true, false⟩ : EscapeRule).escape)

def quoted (text : String) : String :=
  String.ofList ('"' :: text.toList.flatMap (⟨false, true, true⟩ : EscapeRule).escape ++ ['"'])

end ArmScript.Text
