import PathQuery.Unicode.Property

/-!
# Visible texts

For a person who reads a log, a text is put between double quotes with nothing invisible left in it: the
quote, the backslash and four control characters have an escape of two characters, and every other
character that does not show by itself, or that would combine with the one before it, is written as its
code point in braces.

## Main definitions

* `isVisible` — the characters that stand for themselves.
* `visible` — a text in quotes.
-/

namespace PathQuery

/-- Characters that show: all but separators, controls, formats and what is not assigned. The blank
shows, and marks that extend the character before them do not. -/
def isVisible (c : Char) : Bool :=
  let n := c.toNat
  n = 0x20 ||
    !(Unicode.graphemeExtend n || (Unicode.category n).isSeparator || (Unicode.category n).isOther)

/-- The form of one character in a visible text. -/
def visibleChar (c : Char) : List Char :=
  if c = '"' ∨ c = '\\' then ['\\', c]
  else if c = '\x00' then ['\\', '0']
  else if c = '\t' then ['\\', 't']
  else if c = '\n' then ['\\', 'n']
  else if c = '\r' then ['\\', 'r']
  else if isVisible c then [c]
  else '\\' :: 'u' :: '\x7b' :: (Nat.toDigits 16 c.toNat ++ ['\x7d'])

/-- A text in double quotes with every character of it visible. -/
def visible (text : String) : String :=
  String.ofList ('"' :: (text.toList.flatMap visibleChar ++ ['"']))

end PathQuery
