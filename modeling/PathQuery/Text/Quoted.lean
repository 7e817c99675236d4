import PathQuery.Text.Digit

/-!
# Quoted texts

A text is written between two quotes of one kind. The quote and the backslash are escaped by a
backslash, five control characters have a letter of their own, the other control characters are written
as four hexadecimal digits, and all else stands for itself. With an apostrophe as the quote this is the
written form of a member name; with a double quote it is that of a string in a document.

## Main definitions

* `escapeLetter?` — the letter behind the backslash, for the characters that have one.
* `escapeChar` — the written form of one character.
* `encode` — the written form of a text.
-/

namespace PathQuery.Quoted

/-- The letter that stands behind the backslash for `c`, between quotes of the kind `quote`. -/
def escapeLetter? (quote c : Char) : Option Char :=
  if c = quote ∨ c = '\\' then some c
  else if c = '\x08' then some 'b'
  else if c = '\x0c' then some 'f'
  else if c = '\n' then some 'n'
  else if c = '\r' then some 'r'
  else if c = '\t' then some 't'
  else none

/-- The written form of `c` between quotes of the kind `quote`. -/
def escapeChar (quote c : Char) : List Char :=
  match escapeLetter? quote c with
  | some letter => ['\\', letter]
  | none =>
    if c.toNat < 0x20 then
      ['\\', 'u', '0', '0', Nat.digitChar (c.toNat / 16), Nat.digitChar (c.toNat % 16)]
    else [c]

/-- The characters of a text as they stand between the quotes. -/
def escape (quote : Char) (text : List Char) : List Char := text.flatMap (escapeChar quote)

/-- A text between quotes. -/
def encode (quote : Char) (text : List Char) : List Char := quote :: (escape quote text ++ [quote])

@[simp] theorem escape_nil (quote : Char) : escape quote [] = [] := rfl

@[simp] theorem escape_cons (quote c : Char) (text : List Char) :
    escape quote (c :: text) = escapeChar quote c ++ escape quote text := rfl

end PathQuery.Quoted
