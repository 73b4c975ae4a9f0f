import ArmScript.Method

set_option autoImplicit false

namespace ArmScript

/-- Comments and blanks separate the other words; an invalid word is a character that starts none. -/
inductive TokenKind where
  | robot
  | identifier
  | number
  | method (m : Method)
  | dot
  | equals
  | openParen
  | closeParen
  | openBrace
  | closeBrace
  | comment
  | blank
  | invalid
  | endOfInput
  deriving DecidableEq, Repr

def TokenKind.isTrivia (k : TokenKind) : Bool := k == .comment || k == .blank

def TokenKind.label : TokenKind → String
  | .robot => "ROBOT"
  | .identifier => "IDENTIFIER"
  | .number => "NUMBER"
  | .method _ => "METHOD"
  | .dot => "DOT"
  | .equals => "EQUALS"
  | .openParen => "LPAREN"
  | .closeParen => "RPAREN"
  | .openBrace => "LBRACE"
  | .closeBrace => "RBRACE"
  | .comment => "COMMENT"
  | .blank => "WHITESPACE"
  | .invalid => "ERROR"
  | .endOfInput => "EOF"

def TokenKind.text : TokenKind → String
  | .robot => "keyword `Robot`"
  | .identifier => "identifier"
  | .number => "number"
  | .method m => s!"method `{m.name}`"
  | .dot => "`.`"
  | .equals => "`=`"
  | .openParen => "`(`"
  | .closeParen => "`)`"
  | .openBrace => "`\x7b`"
  | .closeBrace => "`\x7d`"
  | .comment => "comment"
  | .blank => "whitespace"
  | .invalid => "invalid character"
  | .endOfInput => "end of input"

end ArmScript
