import PathQuery.Json.Basic
import PathQuery.Text.Quoted
import PathQuery.Decimal.Shortest

/-!
# The text of a document

A document is written without blanks, with the members of an object in their order. Integers are written
in decimal and doubles with the fewest digits that read back; strings stand between double quotes.

## Main definitions

* `intChars` — the decimal digits of an integer, with its sign.
* `Number.layout`, `Number.chars` — numbers.
* `Json.chars`, `Json.text` — documents.
-/

namespace PathQuery

/-- The decimal digits of an integer, behind a minus sign if it is negative. -/
def intChars (n : Int) : List Char :=
  if n < 0 then '-' :: Nat.toDigits 10 n.natAbs else Nat.toDigits 10 n.natAbs

namespace Number

/-- Doubles are written out from 0.00001 to below 10 ^ 16, and with an exponent beyond. -/
def layout : Decimal.Layout := ⟨-5, 15⟩

/-- The digits of a double. A zero keeps its sign, and a double that is no number is null. -/
def realChars (x : Float) : List Char :=
  if x.isFinite then
    let sign := if x.toBits.toNat < 1 <<< 63 then [] else ['-']
    if x == 0.0 then sign ++ ['0', '.', '0']
    else sign ++ layout.write (Decimal.shortest x.abs)
  else ['n', 'u', 'l', 'l']

/-- The digits of a number. -/
def chars : Number → List Char
  | integer n => intChars n
  | real x => realChars x

end Number

namespace Json

mutual

/-- The characters of the text of a document. -/
def chars : Json → List Char
  | .null => ['n', 'u', 'l', 'l']
  | .bool true => ['t', 'r', 'u', 'e']
  | .bool false => ['f', 'a', 'l', 's', 'e']
  | .number n => n.chars
  | .string s => Quoted.encode '"' s.toList
  | .array [] => ['[', ']']
  | .array (x :: xs) => '[' :: (chars x ++ itemChars xs)
  | .object [] => ['\x7b', '\x7d']
  | .object ((name, x) :: ms) =>
    '\x7b' :: (Quoted.encode '"' name.toList ++ ':' :: (chars x ++ memberChars ms))

/-- The items behind the first one, each behind a comma, and the closing bracket. -/
def itemChars : List Json → List Char
  | [] => [']']
  | x :: xs => ',' :: (chars x ++ itemChars xs)

/-- The members behind the first one, each behind a comma, and the closing brace. -/
def memberChars : List (String × Json) → List Char
  | [] => ['\x7d']
  | (name, x) :: ms =>
    ',' :: (Quoted.encode '"' name.toList ++ ':' :: (chars x ++ memberChars ms))

end

/-- The text of a document. -/
def text (v : Json) : String := String.ofList v.chars

end Json

end PathQuery
