import PathQuery.Reader
import PathQuery.Decimal.Basic

/-!
# Numerals

The numerals of documents and of literals in paths: an optional minus sign, a whole part without a
redundant zero, an optional fraction and an optional exponent. The reader is greedy and looks one
character ahead; a part that has begun must be finished.

## Main definitions

* `Numeral` — the parts of a numeral, as digits.
* `Numeral.read` — takes a numeral off a text.
* `Numeral.ofChars?` — the numeral that a whole text is.
* `Numeral.integer?` — its value, if it has neither fraction nor exponent.
* `Numeral.real` — the nearest double to its value.

## Main results

* `Numeral.read_trims` — what is left behind a numeral is an end of the text.
-/

namespace PathQuery

/-- The parts of a numeral: its sign, the digits of its whole part, those of its fraction, and the sign
and the digits of its exponent. -/
structure Numeral where
  negative : Bool
  whole : List Char
  fraction : Option (List Char)
  exponent : Option (Bool × List Char)
deriving DecidableEq, Repr

namespace Numeral

open Reader

variable {ε : Type}

/-! ## Reading -/

/-- Takes a minus sign off the text, if there is one. -/
def readSign : Reader ε Bool := do
  if (← peek) = some '-' then
    skip
    pure true
  else pure false

/-- Takes a run of digits off the text; there must be one. -/
def readDigits (bad : ε) : Reader ε (List Char) := do
  match ← peek with
  | some c => if c.isDigit then takeWhile Char.isDigit else fail bad
  | none => fail bad

/-- Takes a whole number off the text: a zero, behind which no digit may follow, or a run of digits that
starts with another one. -/
def readWhole (bad : ε) : Reader ε (List Char) := do
  if (← peek) = some '0' then
    skip
    match ← peek with
    | some c => if c.isDigit then fail bad else pure ['0']
    | none => pure ['0']
  else readDigits bad

/-- Takes a point and the digits of a fraction off the text, if there is a point. -/
def readFraction (bad : ε) : Reader ε (Option (List Char)) := do
  if (← peek) = some '.' then
    skip
    some <$> readDigits bad
  else pure none

/-- Takes the sign of an exponent off the text, which may be left out. -/
def readExponentSign : Reader ε Bool := do
  match ← peek with
  | some '-' =>
    skip
    pure true
  | some '+' =>
    skip
    pure false
  | _ => pure false

/-- Takes an exponent off the text, if its letter is there. -/
def readExponent (bad : ε) : Reader ε (Option (Bool × List Char)) := do
  let c ← peek
  if c = some 'e' ∨ c = some 'E' then
    skip
    let negative ← readExponentSign
    let digits ← readDigits bad
    pure (some (negative, digits))
  else pure none

/-- Takes a numeral off the text. -/
def read (bad : ε) : Reader ε Numeral := do
  let negative ← readSign
  let whole ← readWhole bad
  let fraction ← readFraction bad
  let exponent ← readExponent bad
  pure ⟨negative, whole, fraction, exponent⟩

/-- The numeral that a whole text is. -/
def ofChars? (s : List Char) : Option Numeral :=
  match read Malformed.malformed s with
  | .done n [] => some n
  | _ => none

/-! ## Readers of numerals only take from the front -/

theorem readSign_trims : Trims (readSign : Reader ε Bool) := by
  refine Trims.bind Trims.peek fun d => ?_
  split
  · exact Trims.bind Trims.skip fun _ => Trims.pure _
  · exact Trims.pure _

theorem readDigits_trims (bad : ε) : Trims (readDigits bad) := by
  refine Trims.bind Trims.peek fun d => ?_
  cases d with
  | none => exact Trims.fail _
  | some d =>
    dsimp only
    split
    · exact Trims.takeWhile _
    · exact Trims.fail _

theorem readWhole_trims (bad : ε) : Trims (readWhole bad) := by
  refine Trims.bind Trims.peek fun d => ?_
  split
  · refine Trims.bind Trims.skip fun _ => Trims.bind Trims.peek fun d => ?_
    cases d with
    | none => exact Trims.pure _
    | some d =>
      dsimp only
      split
      · exact Trims.fail _
      · exact Trims.pure _
  · exact readDigits_trims bad

theorem readFraction_trims (bad : ε) : Trims (readFraction bad) := by
  refine Trims.bind Trims.peek fun d => ?_
  split
  · exact Trims.bind Trims.skip fun _ => Trims.map _ (readDigits_trims bad)
  · exact Trims.pure _

theorem readExponentSign_trims : Trims (readExponentSign : Reader ε Bool) := by
  refine Trims.bind Trims.peek fun d => ?_
  split
  · exact Trims.bind Trims.skip fun _ => Trims.pure _
  · exact Trims.bind Trims.skip fun _ => Trims.pure _
  · exact Trims.pure _

theorem readExponent_trims (bad : ε) : Trims (readExponent bad) := by
  refine Trims.bind Trims.peek fun d => ?_
  split
  · exact Trims.bind Trims.skip fun _ => Trims.bind readExponentSign_trims fun _ =>
      Trims.bind (readDigits_trims bad) fun _ => Trims.pure _
  · exact Trims.pure _

theorem read_trims (bad : ε) : Trims (read bad) :=
  Trims.bind readSign_trims fun _ => Trims.bind (readWhole_trims bad) fun _ =>
    Trims.bind (readFraction_trims bad) fun _ => Trims.bind (readExponent_trims bad) fun _ =>
      Trims.pure _

/-! ## Values -/

/-- The number with a sign. -/
def signed (negative : Bool) (n : Nat) : Int := if negative then -(n : Int) else n

/-- The value of a numeral that has neither fraction nor exponent. -/
def integer? (n : Numeral) : Option Int :=
  match n.fraction, n.exponent with
  | none, none => some (signed n.negative (natOfDigits n.whole))
  | _, _ => none

/-- The value of a numeral without its sign. -/
def magnitude (n : Numeral) : Decimal :=
  let fraction := n.fraction.getD []
  let exponent := match n.exponent with
    | some (negative, digits) => signed negative (natOfDigits digits)
    | none => 0
  ⟨natOfDigits (n.whole ++ fraction), exponent - fraction.length⟩

/-- The nearest double; a numeral that is too large gives an infinity. -/
def real (n : Numeral) : Float :=
  if n.negative then -n.magnitude.toFloat else n.magnitude.toFloat

end Numeral

end PathQuery
