import PathQuery.Path.Basic
import PathQuery.Path.ReadError
import PathQuery.Numeral
import PathQuery.Text.Class
import PathQuery.Text.Unquote
import PathQuery.Word

/-!
# The words of a path

The parts of a path that hold no others: bare names, quoted texts, integers, numbers, the three keywords,
function names and the signs of comparisons. Each reader here consumes exactly the word it reads, and a
failure leaves the text at the character that is to blame.

## Main definitions

* `readName`, `readQuoted` — names.
* `readInt`, `readOptionalInt` — the integers of indices and slices.
* `readNumber`, `keyword?` — literals.
* `readFunctionName`, `comparison?` — function names and comparisons.

## Main results

* `readQuoted_trims`, `readNumber_trims` and the like — what is left behind a word is an end of the text.
-/

namespace PathQuery.Lexeme

open Reader
open ReadError (Cause)

/-- Passes over white space. -/
def skipBlank : Reader Cause Unit := skipWhile isBlank

/-- Passes over `c`, the only character that can stand here. -/
def expect (c : Char) : Reader Cause Unit := do
  match ← peek with
  | some d => if d = c then skip else fail (.expected c)
  | none => fail .unexpectedEnd

/-! ## Names -/

/-- Takes a bare name off the text. -/
def readName : Reader Cause String := do
  match ← peek with
  | some c => if isNameStart c then String.ofList <$> takeWhile isNameChar else fail .noName
  | none => fail .unexpectedEnd

/-- Quoted texts of a path: every character may stand in them, and either quote may be escaped. -/
def dialect : Quoted.Dialect Cause where
  letter? c := if c = '\'' then some '\'' else Quoted.commonLetter? c
  plain _ := true
  badEscape := .badEscape
  badChar := .badEscape
  unclosed := .unclosedString

/-- Whether a character opens a quoted text. -/
def isQuote (c : Char) : Bool := c == '\'' || c == '"'

/-- Takes a quoted text off the text; it ends at the quote that it starts with. -/
def readQuoted : Reader Cause String := do
  match ← peek with
  | some quote =>
    if isQuote quote then
      skip
      String.ofList <$> Quoted.readBody dialect quote
    else fail .badSelector
  | none => fail .badSelector

/-! ## Numbers -/

/-- Takes an integer off the text. -/
def readInt : Reader Cause Int64 := do
  let negative ← Numeral.readSign
  let digits ← Numeral.readWhole .badNumber
  match Word.ofInt? (Numeral.signed negative (natOfDigits digits)) with
  | some i => pure i
  | none => fail .badNumber

/-- Whether a character starts a number. -/
def startsNumber (c : Char) : Bool := c == '-' || c.isDigit

/-- Takes an integer off the text if one starts behind the white space there. -/
def readOptionalInt : Reader Cause (Option Int64) := do
  skipBlank
  match ← peek with
  | some c => if startsNumber c then some <$> readInt else pure none
  | none => pure none

/-- The number that a numeral stands for: an integer if it is written as one and fits a word, and
otherwise the nearest double, which must be finite. -/
def numberOf? (n : Numeral) : Option Number :=
  match n.integer? with
  | some i =>
    if (Word.ofInt? i).isSome then some (.integer i)
    else if n.real.isFinite then some (.real n.real)
    else none
  | none => if n.real.isFinite then some (.real n.real) else none

/-- Takes a number off the text. -/
def readNumber : Reader Cause Json := do
  let n ← Numeral.read .badNumber
  match numberOf? n with
  | some n => pure (.number n)
  | none => fail .badNumber

/-! ## Keywords, functions and signs -/

/-- Whether the text goes on with a whole word: not with a longer name, and not with a call. -/
def startsWord (word s : List Char) : Bool :=
  word.isPrefixOf s && !(s.drop word.length).head?.any (fun c => isNameChar c || c == '(')

/-- The keywords and their values. -/
def keywords : List (List Char × Json) :=
  [(['t', 'r', 'u', 'e'], .bool true), (['f', 'a', 'l', 's', 'e'], .bool false),
   (['n', 'u', 'l', 'l'], .null)]

/-- The keyword that the text starts with, and its value. -/
def keyword? (s : List Char) : Option (List Char × Json) :=
  keywords.find? fun k => startsWord k.1 s

/-- Takes a keyword off the text if it starts with one. -/
def readKeyword : Reader Cause (Option Json) := fun s =>
  match keyword? s with
  | some (word, value) => .done (some value) (s.drop word.length)
  | none => .done none s

/-- Takes a function name off the text, which starts with a small letter. -/
def readFunctionName : Reader Cause String := String.ofList <$> takeWhile isFunctionChar

/-- The comparison whose sign the text starts with. The signs of two characters go first. -/
def comparison? (s : List Char) : Option CompareOp :=
  match s with
  | '=' :: '=' :: _ => some .eq
  | '!' :: '=' :: _ => some .ne
  | '<' :: '=' :: _ => some .le
  | '>' :: '=' :: _ => some .ge
  | '<' :: _ => some .lt
  | '>' :: _ => some .gt
  | _ => none

/-- The number of characters of the sign of a comparison. -/
def signLength : CompareOp → Nat
  | .lt | .gt => 1
  | _ => 2

/-- The comparison whose sign comes next, which is not consumed. -/
def peekComparison : Reader Cause (Option CompareOp) := fun s => .done (comparison? s) s

/-! ## Words are taken off the front -/

theorem skipBlank_trims : Trims skipBlank := Trims.skipWhile _

theorem expect_trims (c : Char) : Trims (expect c) := by
  refine Trims.bind Trims.peek fun d => ?_
  cases d with
  | none => exact Trims.fail _
  | some d =>
    dsimp only
    split
    · exact Trims.skip
    · exact Trims.fail _

theorem readName_trims : Trims readName := by
  refine Trims.bind Trims.peek fun d => ?_
  cases d with
  | none => exact Trims.fail _
  | some d =>
    dsimp only
    split
    · exact Trims.map _ (Trims.takeWhile _)
    · exact Trims.fail _

theorem readQuoted_trims : Trims readQuoted := by
  refine Trims.bind Trims.peek fun d => ?_
  cases d with
  | none => exact Trims.fail _
  | some d =>
    dsimp only
    split
    · exact Trims.bind Trims.skip fun _ => Trims.map _ (Quoted.readBody_trims _ _)
    · exact Trims.fail _

theorem readInt_trims : Trims readInt := by
  refine Trims.bind Numeral.readSign_trims fun negative =>
    Trims.bind (Numeral.readWhole_trims _) fun digits => ?_
  split
  · exact Trims.pure _
  · exact Trims.fail _

theorem readOptionalInt_trims : Trims readOptionalInt := by
  refine Trims.bind skipBlank_trims fun _ => Trims.bind Trims.peek fun d => ?_
  cases d with
  | none => exact Trims.pure _
  | some d =>
    dsimp only
    split
    · exact Trims.map _ readInt_trims
    · exact Trims.pure _

theorem readNumber_trims : Trims readNumber := by
  refine Trims.bind (Numeral.read_trims _) fun n => ?_
  split
  · exact Trims.pure _
  · exact Trims.fail _

theorem readKeyword_trims : Trims readKeyword := by
  intro s
  unfold readKeyword
  split
  · exact List.drop_suffix _ s
  · exact List.suffix_refl s

theorem readFunctionName_trims : Trims readFunctionName := Trims.map _ (Trims.takeWhile _)

theorem peekComparison_trims : Trims peekComparison := fun s => List.suffix_refl s

end PathQuery.Lexeme
