/-!
# Digits

Decimal and hexadecimal digits are the sixteen ASCII characters, and nothing else: a digit of another
script is a letter as far as numerals and escapes are concerned.

## Main definitions

* `hexValue?` — the value of a hexadecimal digit of either case.
* `hexDigits` — the lower-case digits of a number.
* `natOfDigits`, `natOfHex?` — the number that a run of digits denotes.
-/

namespace PathQuery

/-- The value of a hexadecimal digit, of either case. -/
def hexValue? (c : Char) : Option Nat :=
  if '0' ≤ c ∧ c ≤ '9' then some (c.toNat - 48)
  else if 'a' ≤ c ∧ c ≤ 'f' then some (c.toNat - 87)
  else if 'A' ≤ c ∧ c ≤ 'F' then some (c.toNat - 55)
  else none

/-- Whether a character is a hexadecimal digit. -/
def isHex (c : Char) : Bool := (hexValue? c).isSome

/-- The digits of `n` in base sixteen, lower case, most significant first. -/
def hexDigits (n : Nat) : List Char := Nat.toDigits 16 n

/-- The number that a run of decimal digits denotes; the empty run denotes zero. -/
def natOfDigits (cs : List Char) : Nat := Nat.ofDigitChars 10 cs 0

/-- The number that a run of hexadecimal digits denotes; `none` if another character is among them. -/
def natOfHex? (cs : List Char) : Option Nat :=
  cs.foldlM (fun n c => (hexValue? c).map (16 * n + ·)) 0

end PathQuery
