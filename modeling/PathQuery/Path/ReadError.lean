/-!
# Why a path cannot be read

A failure has a cause and a position, the number of bytes of the text before the place where reading
stopped.

## Main definitions

* `ReadError.Cause` — the causes.
* `ReadError.Cause.text`, `ReadError.message` — their wording.
-/

namespace PathQuery

/-- What was wrong where reading stopped. -/
inductive ReadError.Cause where
  /-- The text does not start with the sign of the document. -/
  | noRoot
  /-- A character that cannot stand here. -/
  | unexpected (c : Char)
  /-- The text ends too early. -/
  | unexpectedEnd
  /-- Another character than the only one that can stand here. -/
  | expected (c : Char)
  /-- Nothing to select behind two points. -/
  | noDescentSelector
  /-- No name behind a point. -/
  | noName
  /-- Brackets with nothing in them. -/
  | emptyBracket
  /-- A backslash with something behind it that is no escape. -/
  | badEscape
  /-- A number that is misspelt or out of range. -/
  | badNumber
  /-- A quoted text without its closing quote. -/
  | unclosedString
  /-- Something in brackets that is no selector. -/
  | badSelector
  /-- No term where one is needed. -/
  | noTerm
  /-- A literal that is not compared to anything. -/
  | noComparison
  /-- A function name without arguments. -/
  | noArguments (function : String)
deriving DecidableEq, Repr

namespace ReadError.Cause

/-- The wording of a cause. -/
def text : Cause → String
  | noRoot => "Expected root identifier '$' at start"
  | unexpected c => "Unexpected character: " ++ c.toString
  | unexpectedEnd => "Unexpected end of input"
  | expected c => "Expected '" ++ c.toString ++ "'"
  | noDescentSelector => "Expected selector after .."
  | noName => "Expected member name"
  | emptyBracket => "Empty bracket selector"
  | badEscape => "Invalid escape sequence"
  | badNumber => "Invalid number"
  | unclosedString => "Unclosed string"
  | badSelector => "Invalid selector"
  | noTerm => "Expected value expression"
  | noComparison => "Expected comparison operator after literal"
  | noArguments function => "Expected '(' after function name " ++ function

end ReadError.Cause

/-- A failure to read a path: its cause, and the number of bytes before the place where reading
stopped. -/
structure ReadError where
  cause : ReadError.Cause
  position : Nat
deriving DecidableEq, Repr

/-- The cause and the position in words. -/
def ReadError.message (e : ReadError) : String :=
  e.cause.text ++ " at position " ++ toString e.position

end PathQuery
