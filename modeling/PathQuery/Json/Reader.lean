import PathQuery.Json.Basic
import PathQuery.Numeral
import PathQuery.Text.Unquote

/-!
# Reading documents

A document is read by recursive descent. An integer without fraction and exponent is kept as an integer
if it fits sixty-four bits, signed or unsigned; every other number is a double, and so is minus zero. A
number too large for a double is refused.

## Main definitions

* `Json.read?` — the document that a text holds.
-/

namespace PathQuery

namespace Json

open Reader

/-- Blanks and line ends between the parts of a document. -/
def isSpace (c : Char) : Bool := c == ' ' || c == '\n' || c == '\r' || c == '\t'

/-- Strings of a document: no control characters, and no escaped apostrophe. -/
def dialect : Quoted.Dialect Malformed where
  letter? := Quoted.commonLetter?
  plain c := 0x20 ≤ c.toNat
  badEscape := .malformed
  badChar := .malformed
  unclosed := .malformed

/-- Takes a string off the text, from its opening quote on. -/
def readString : Reader Malformed String := do
  if (← peek) = some '"' then
    skip
    String.ofList <$> Quoted.readBody dialect '"'
  else fail .malformed

/-- The number that a numeral stands for. -/
def numberOf? (n : Numeral) : Option Number :=
  match n.integer? with
  | some i =>
    if -0x8000000000000000 ≤ i ∧ i < 0x10000000000000000 ∧ ¬(i = 0 ∧ n.negative) then some (.integer i)
    else if n.real.isFinite then some (.real n.real)
    else none
  | none => if n.real.isFinite then some (.real n.real) else none

/-- Takes a number off the text. -/
def readNumber : Reader Malformed Json := do
  let n ← Numeral.read .malformed
  match numberOf? n with
  | some n => pure (.number n)
  | none => fail .malformed

/-- Takes a word off the text. -/
def readWord (word : List Char) (value : Json) : Reader Malformed Json := do
  if ← lookingAt word then
    skipMany word.length
    pure value
  else fail .malformed

mutual

/-- Takes a value off the text, nested no deeper than `n`. -/
def readValue : Nat → Reader Malformed Json
  | 0 => fail .malformed
  | n + 1 => do
    skipWhile isSpace
    match ← peek with
    | some '[' =>
      skip
      skipWhile isSpace
      if (← peek) = some ']' then
        skip
        pure (.array [])
      else .array <$> readItems n
    | some '\x7b' =>
      skip
      skipWhile isSpace
      if (← peek) = some '\x7d' then
        skip
        pure (.object [])
      else .object <$> readMembers n
    | some '"' => .string <$> readString
    | some 'n' => readWord ['n', 'u', 'l', 'l'] .null
    | some 't' => readWord ['t', 'r', 'u', 'e'] (.bool true)
    | some 'f' => readWord ['f', 'a', 'l', 's', 'e'] (.bool false)
    | _ => readNumber

/-- Takes items and the closing bracket off the text. -/
def readItems : Nat → Reader Malformed (List Json)
  | 0 => fail .malformed
  | n + 1 => do
    let x ← readValue n
    skipWhile isSpace
    match ← peek with
    | some ',' =>
      skip
      (x :: ·) <$> readItems n
    | some ']' =>
      skip
      pure [x]
    | _ => fail .malformed

/-- Takes members and the closing brace off the text. -/
def readMembers : Nat → Reader Malformed (List (String × Json))
  | 0 => fail .malformed
  | n + 1 => do
    skipWhile isSpace
    let name ← readString
    skipWhile isSpace
    if (← peek) = some ':' then
      skip
      let x ← readValue n
      skipWhile isSpace
      match ← peek with
      | some ',' =>
        skip
        ((name, x) :: ·) <$> readMembers n
      | some '\x7d' =>
        skip
        pure [(name, x)]
      | _ => fail .malformed
    else fail .malformed

end

/-- The document that a text holds, if it holds one and nothing else. Every level of a value consumes a
character, so the length of the text bounds the depth. -/
def read? (text : String) : Option Json :=
  let s := text.toList
  match readValue (2 * s.length + 2) s with
  | .done v rest => if rest.all isSpace then some v else none
  | .failed _ _ => none

end Json

end PathQuery
