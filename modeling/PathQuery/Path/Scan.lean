import PathQuery.Cursor
import PathQuery.Path.Grammar
import PathQuery.Path.Printer

/-!
# Paths read with a cursor

The rules of the grammar, written for a cursor: a position moves through the text, a word is cut out of it
between two positions, and lists and chains are read in loops that go on from what has been read so far.
The only place where the position goes back is in front of white space that no segment follows.

The rules call each other in a circle, which is cut at three of them: a `Scanner` holds these for the calls
inside. How often the circle may be run through is bounded like the turns of the loops, and a call beyond
the bound has no outcome. That there is an outcome for every text, whatever the bound, as long as it is
above the length of the text, is a theorem, and so is that it is the one that `Path.read` gives.

## Main definitions

* `Scan.int`, `Scan.quoted`, `Scan.keyword?` and the like — words.
* `Scanner` — the rules that the others are called by.
* `Scanner.segments`, `Scanner.term`, `Scanner.filterRule` — the rules.
* `Scanner.step`, `Scanner.upTo`, `scanner` — the circle closed.
* `Path.scan` — the path that a text holds.
-/

namespace PathQuery

open ReadError (Cause)

namespace Scan

open Cursor Lexeme
open Grammar (opensSegment)

/-- Passes over white space. -/
def skipBlank : Cursor Cause Unit := advanceWhile isBlank

/-- Passes over `c`, the only character that can stand here. -/
def expect (c : Char) : Cursor Cause Unit := do
  match ← peek with
  | some d => if d = c then advance else fail (.expected c)
  | none => fail .unexpectedEnd

/-! ## Names -/

/-- Passes over a bare name. -/
def nameRun : Cursor Cause Unit := do
  match ← peek with
  | some c =>
    if isNameStart c then
      advance
      advanceWhile isNameChar
    else fail .noName
  | none => fail .unexpectedEnd

/-- A bare name. -/
def name : Cursor Cause String := String.ofList <$> taken nameRun

/-- Four hexadecimal digits. -/
def unit : Cursor Cause Nat := do
  match (← get? 4).bind natOfHex? with
  | some n =>
    advanceBy 4
    pure n
  | none => fail .badEscape

/-- The digits behind `\u`, and the second escape of a surrogate pair. -/
def codePoint : Cursor Cause Char := do
  let high ← unit
  if Quoted.isHighSurrogate high then
    if ← peekWord ['\\', 'u'] then
      advanceBy 2
      let low ← unit
      if Quoted.isLowSurrogate low then pure (Quoted.pairChar high low) else fail .badEscape
    else fail .badEscape
  else if Quoted.isLowSurrogate high then fail .badEscape
  else pure (Char.ofNat high)

/-- What stands behind a backslash. -/
def escape : Cursor Cause Char := do
  match ← peek with
  | some 'u' =>
    advance
    codePoint
  | some c =>
    match dialect.letter? c with
    | some meant =>
      advance
      pure meant
    | none => fail .badEscape
  | none => fail .badEscape

/-- A character of a quoted text, behind those read so far, or its closing quote. -/
def quotedTurn (quote : Char) (sofar : List Char) : Cursor Cause (Turn (List Char) (List Char)) := do
  match ← peek with
  | some c =>
    if c = quote then
      advance
      pure (.leave sofar)
    else if c = '\\' then
      advance
      let meant ← escape
      pure (.again (sofar ++ [meant]))
    else
      advance
      pure (.again (sofar ++ [c]))
  | none => fail .unclosedString

/-- A quoted text. -/
def quoted : Cursor Cause String := do
  match ← peek with
  | some quote =>
    if isQuote quote then
      advance
      String.ofList <$> loop (quotedTurn quote) []
    else fail .badSelector
  | none => fail .badSelector

/-! ## Numbers -/

/-- Passes over a minus sign, if there is one. -/
def sign : Cursor Cause Unit := do
  if (← peek) = some '-' then advance else pure ()

/-- Passes over a run of digits; there must be one. -/
def digits : Cursor Cause Unit := do
  if (← peek).any Char.isDigit then advanceWhile Char.isDigit else fail .badNumber

/-- Passes over a whole number without a redundant zero. -/
def whole : Cursor Cause Unit := do
  if (← peek) = some '0' then
    advance
    if (← peek).any Char.isDigit then fail .badNumber else pure ()
  else digits

/-- Passes over an integer. -/
def intRun : Cursor Cause Unit := do
  sign
  whole

/-- An integer. -/
def int : Cursor Cause Int64 := do
  match (Numeral.ofChars? (← taken intRun)).bind fun n => n.integer?.bind Word.ofInt? with
  | some i => pure i
  | none => fail .badNumber

/-- An integer if one starts behind the white space there. -/
def optionalInt : Cursor Cause (Option Int64) := do
  skipBlank
  if (← peek).any startsNumber then some <$> int else pure none

/-- Passes over a point and the digits of a fraction, if there is a point. -/
def fraction : Cursor Cause Unit := do
  if (← peek) = some '.' then
    advance
    digits
  else pure ()

/-- Passes over the sign of an exponent, if there is one. -/
def exponentSign : Cursor Cause Unit := do
  let c ← peek
  if c = some '+' ∨ c = some '-' then advance else pure ()

/-- Passes over an exponent, if its letter is there. -/
def exponent : Cursor Cause Unit := do
  let c ← peek
  if c = some 'e' ∨ c = some 'E' then
    advance
    exponentSign
    digits
  else pure ()

/-- Passes over a number. -/
def numberRun : Cursor Cause Unit := do
  sign
  whole
  fraction
  exponent

/-- A number. -/
def number : Cursor Cause Json := do
  match (Numeral.ofChars? (← taken numberRun)).bind numberOf? with
  | some n => pure (.number n)
  | none => fail .badNumber

/-! ## Keywords, functions and signs -/

/-- The value of the first of these words that stands here as a whole word. -/
def keywordAmong? : List (List Char × Json) → Cursor Cause (Option Json)
  | [] => pure none
  | (word, value) :: more => do
    if ← peekWord word then
      if (← restFrom (Path.byteCount word)).head?.any (fun c => isNameChar c || c == '(') then
        keywordAmong? more
      else
        advanceBy (Path.byteCount word)
        pure (some value)
    else keywordAmong? more

/-- A keyword, if one stands here. -/
def keyword? : Cursor Cause (Option Json) := keywordAmong? keywords

/-- Passes over a function name. -/
def functionNameRun : Cursor Cause Unit := do
  if (← peek).any isSmallLetter then
    advance
    advanceWhile isFunctionChar
  else fail .noTerm

/-- A function name. -/
def functionName : Cursor Cause String := String.ofList <$> taken functionNameRun

/-- The first of these comparisons whose sign comes next. -/
def comparisonAmong? : List CompareOp → Cursor Cause (Option CompareOp)
  | [] => pure none
  | op :: more => do
    if ← peekWord op.chars then pure (some op) else comparisonAmong? more

/-- The comparison whose sign comes next. The signs of two characters are tried first. -/
def comparison? : Cursor Cause (Option CompareOp) := comparisonAmong? [.eq, .ne, .le, .ge, .lt, .gt]

/-! ## Rules without parts of their own kind -/

/-- The rest of a slice behind its second part: a colon and an integer, or nothing. -/
def sliceStep : Cursor Cause (Option Int64) := do
  if (← peek) = some ':' then
    advance
    optionalInt
  else pure none

/-- An index, or a slice, which is told apart by its first colon. -/
def indexOrSlice : Cursor Cause Selector := do
  let start ← optionalInt
  skipBlank
  if (← peek) = some ':' then
    advance
    let stop ← optionalInt
    skipBlank
    let step ← sliceStep
    pure (.slice start stop step)
  else
    match start with
    | some i => pure (.index i)
    | none => fail .badSelector

/-- What stands behind a single point. -/
def member : Cursor Cause Segment := do
  skipBlank
  if (← peek) = some '*' then
    advance
    pure [.wildcard]
  else (fun key => [.name key]) <$> name

end Scan

/-! ## Rules -/

/-- The rules that close the circle. -/
structure Scanner where
  /-- A filter. -/
  filter : Cursor Cause Filter
  /-- A filter without a connective outside parentheses. -/
  unary : Cursor Cause Filter
  /-- An argument of a call. -/
  argument : Cursor Cause Argument

namespace Scanner

open Cursor Lexeme Scan
open Grammar (opensSegment)

variable (g : Scanner)

/-! ### Segments and selectors -/

/-- A selector in brackets. Parentheses around a whole filter are dropped. -/
def selector : Cursor Cause Selector := do
  match ← peek with
  | some c =>
    if isQuote c then .name <$> quoted
    else if c = '*' then
      advance
      pure .wildcard
    else if c = '?' then
      advance
      (fun f => .filter f.ungroup) <$> g.filter
    else if c = ':' ∨ startsNumber c then indexOrSlice
    else fail .badSelector
  | none => fail .unexpectedEnd

/-- Another selector behind those read so far, and a comma or the closing bracket. -/
def selectorsTurn (sofar : Segment) : Cursor Cause (Turn Segment Segment) := do
  skipBlank
  let next ← g.selector
  skipBlank
  match ← peek with
  | some c =>
    if c = ',' then
      advance
      pure (.again (sofar ++ [next]))
    else if c = ']' then
      advance
      pure (.leave (sofar ++ [next]))
    else fail (.unexpected c)
  | none => fail .unexpectedEnd

/-- Selectors in brackets. -/
def brackets : Cursor Cause Segment := do
  expect '['
  skipBlank
  if (← peek) = some ']' then fail .emptyBracket else loop g.selectorsTurn []

/-- What stands behind two points. -/
def descendants : Cursor Cause Segment := do
  match ← peek with
  | some c =>
    if c = '*' then
      advance
      pure (Segment.descendant [.wildcard])
    else if c = '[' then Segment.descendant <$> g.brackets
    else if isNameStart c then (fun key => Segment.descendant [.name key]) <$> name
    else fail .noDescentSelector
  | none => fail .noDescentSelector

/-- A segment. -/
def segment : Cursor Cause Segment := do
  if ← peekWord ['.', '.'] then
    advanceBy 2
    g.descendants
  else if (← peek) = some '[' then g.brackets
  else
    expect '.'
    member

/-- Another segment behind those read so far. Where none comes, the position goes back in front of the
white space. -/
def segmentsTurn (sofar : List Segment) : Cursor Cause (Turn (List Segment) (List Segment)) := do
  let save ← position
  skipBlank
  if (← peek).any opensSegment then
    let next ← g.segment
    pure (.again (sofar ++ [next]))
  else
    moveTo save
    pure (.leave sofar)

/-- The segments that come next, which may be none. -/
def segments : Cursor Cause (List Segment) := loop g.segmentsTurn []

/-! ### Terms and filters -/

/-- Another argument behind those read so far, and a comma if there is one. -/
def argumentsTurn (sofar : List Argument) :
    Cursor Cause (Turn (List Argument) (List Argument)) := do
  let next ← g.argument
  skipBlank
  if (← peek) = some ',' then
    advance
    pure (.again (sofar ++ [next]))
  else pure (.leave (sofar ++ [next]))

/-- A call, from the function name on. -/
def call : Cursor Cause Term := do
  let function ← functionName
  skipBlank
  if (← peek) = some '(' then
    advance
    skipBlank
    let args ← if (← peek) = some ')' then pure [] else loop g.argumentsTurn []
    skipBlank
    expect ')'
    pure (.call function args)
  else fail (.noArguments function)

/-- A term. -/
def term : Cursor Cause Term := do
  skipBlank
  match ← peek with
  | some c =>
    if c = '@' then
      advance
      if (← peek).any opensSegment then .path .current <$> g.segments else pure .current
    else if c = '$' then
      advance
      match ← g.segments with
      | [] => pure .root
      | segments => pure (.path .root segments)
    else if isQuote c then (fun s => .literal (.string s)) <$> quoted
    else if startsNumber c then .literal <$> number
    else if isSmallLetter c then
      match ← keyword? with
      | some value => pure (.literal value)
      | none => g.call
    else fail .noTerm
  | none => fail .unexpectedEnd

/-- The rest of a comparison behind its left side, or the test that the left side makes alone. -/
def comparison (left : Term) : Cursor Cause Filter := do
  skipBlank
  match ← comparison? with
  | some op =>
    advanceBy (signLength op)
    (.comparison op left ·) <$> g.term
  | none =>
    match left.test? with
    | some f => pure f
    | none => fail .noComparison

/-- A filter without a connective outside parentheses. -/
def unaryRule : Cursor Cause Filter := do
  skipBlank
  let c ← peek
  if c = some '!' then
    advance
    .negation <$> g.unary
  else if c = some '(' then
    advance
    let f ← g.filter
    skipBlank
    expect ')'
    pure (.group f)
  else
    let left ← g.term
    g.comparison left

/-- Another part of a conjunction behind those read so far. -/
def conjunctionTurn (left : Filter) : Cursor Cause (Turn Filter Filter) := do
  if ← peekWord ['&', '&'] then
    advanceBy 2
    let right ← g.unaryRule
    skipBlank
    pure (.again (.logic .and left right))
  else pure (.leave left)

/-- The rest of a conjunction, which groups to the left. -/
def conjunction (left : Filter) : Cursor Cause Filter := do
  skipBlank
  loop g.conjunctionTurn left

/-- A filter without a disjunction outside parentheses. -/
def conjunctive : Cursor Cause Filter := do
  let left ← g.unaryRule
  g.conjunction left

/-- Another part of a disjunction behind those read so far. -/
def disjunctionTurn (left : Filter) : Cursor Cause (Turn Filter Filter) := do
  if ← peekWord ['|', '|'] then
    advanceBy 2
    let right ← g.conjunctive
    skipBlank
    pure (.again (.logic .or left right))
  else pure (.leave left)

/-- The rest of a disjunction, which groups to the left. -/
def disjunction (left : Filter) : Cursor Cause Filter := do
  skipBlank
  loop g.disjunctionTurn left

/-- A filter. -/
def filterRule : Cursor Cause Filter := do
  let left ← g.conjunctive
  g.disjunction left

/-- An argument: a term, unless a sign behind it or a negation or parenthesis in front shows it to be a
filter. -/
def argumentRule : Cursor Cause Argument := do
  skipBlank
  let c ← peek
  if c = some '!' ∨ c = some '(' then .filter <$> g.filterRule
  else
    let left ← g.term
    skipBlank
    if (← comparison?).isSome || (← peekWord ['&', '&']) || (← peekWord ['|', '|']) then
      let test ← g.comparison left
      let test ← g.conjunction test
      .filter <$> g.disjunction test
    else pure (.term left)

/-! ### The circle closed -/

/-- The rules that are called by the rules of `g`. -/
def step : Scanner where
  filter := g.filterRule
  unary := g.unaryRule
  argument := g.argumentRule

/-- The rules run through up to a number of times. -/
def upTo : Nat → Scanner
  | 0 => ⟨fun _ _ => none, fun _ _ => none, fun _ _ => none⟩
  | n + 1 => (upTo n).step

end Scanner

/-- The rules, run through as often as the bound allows. -/
def scanner : Scanner where
  filter input := (Scanner.upTo input.bound).filter input
  unary input := (Scanner.upTo input.bound).unary input
  argument input := (Scanner.upTo input.bound).argument input

open Cursor Scan in
/-- A whole path: the sign of the document and segments, with nothing but white space behind them. -/
def Scanner.query : Cursor Cause Path := do
  if (← peek) = some '$' then
    advance
    let segments ← scanner.segments
    skipBlank
    match ← peek with
    | some c => fail (.unexpected c)
    | none => pure ⟨segments⟩
  else fail .noRoot

/-- The path that a text holds, or why it holds none, as a cursor finds it from the start of the text
within a bound. -/
def Path.scan (bound : Nat) (text : String) : Option (Except ReadError Path) :=
  (Scanner.query ⟨text.toList, bound⟩ 0).map fun
    | (.ok p, _) => .ok p
    | (.error cause, pos) => .error ⟨cause, pos⟩

end PathQuery
