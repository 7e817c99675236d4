import PathQuery.Path.Lexeme

/-!
# The grammar of paths

Paths hold filters and filters hold paths, so the rules of the grammar refer to each other in a circle.
The circle is cut in one place: a `Grammar` is a reader for each of the seven parts that contain parts of
the same kind, and every rule is an ordinary function of the grammar to use for the parts inside. `step`
puts the rules together; a rule hands a part to the grammar inside only after it has consumed at least
one character, so as many steps as the text has characters, and one more, are enough for any text.

The rules look at one character, at a sign of two characters, or at a keyword, before they decide, and
never go back. White space may stand between all parts, except behind `..` and between `@` and the first
segment.

## Main definitions

* `Grammar` — readers for the parts that contain themselves.
* `Grammar.segment`, `Grammar.selector`, `Grammar.term`, `Grammar.argument` — the rules.
* `Grammar.step`, `Grammar.upTo`, `grammar` — the circle closed.
* `Path.read` — the path that a text holds.
-/

namespace PathQuery

open ReadError (Cause)

/-- Readers for the parts of a path that contain parts of the same kind. -/
structure Grammar where
  /-- The segments that come next, which may be none. -/
  segments : Reader Cause (List Segment)
  /-- The selectors up to the closing bracket. -/
  selectors : Reader Cause Segment
  /-- A filter. -/
  filter : Reader Cause Filter
  /-- A filter without a connective outside parentheses. -/
  unary : Reader Cause Filter
  /-- The rest of a conjunction, from what has been read of it. -/
  conjunction : Filter → Reader Cause Filter
  /-- The rest of a disjunction, from what has been read of it. -/
  disjunction : Filter → Reader Cause Filter
  /-- The arguments of a call, of which there is one at least. -/
  arguments : Reader Cause (List Argument)

/-- A filter without the parentheses around the whole of it. -/
def Filter.ungroup : Filter → Filter
  | .group f => f
  | f => f

/-- The test that a term makes when it is not compared to anything; a literal makes none. -/
def Term.test? : Term → Option Filter
  | .current => some (.existence .current [])
  | .root => some (.existence .root [])
  | .literal _ => none
  | .path anchor segments => some (.existence anchor segments)
  | .call function args => some (.call function args)

namespace Grammar

open Reader Lexeme

/-- Whether a character opens a segment. -/
def opensSegment (c : Char) : Bool := c == '.' || c == '['

/-- The next character behind white space; nothing is consumed. -/
def peekBehindBlank : Reader Cause (Option Char) := fun s => .done (s.dropWhile isBlank).head? s

/-- Whether the sign of a comparison or of a connective comes next. -/
def lookingAtSign : Reader Cause Bool := fun s =>
  .done ((comparison? s).isSome || ['&', '&'].isPrefixOf s || ['|', '|'].isPrefixOf s) s

variable (g : Grammar)

/-! ## Segments and selectors -/

/-- The rest of a slice behind its second part: a colon and an integer, or nothing. -/
def sliceStep : Reader Cause (Option Int64) := do
  if (← peek) = some ':' then
    skip
    readOptionalInt
  else pure none

/-- An index, or a slice, which is told apart by its first colon. -/
def indexOrSlice : Reader Cause Selector := do
  let start ← readOptionalInt
  skipBlank
  if (← peek) = some ':' then
    skip
    let stop ← readOptionalInt
    skipBlank
    let step ← sliceStep
    pure (.slice start stop step)
  else
    match start with
    | some i => pure (.index i)
    | none => fail .badSelector

/-- A selector in brackets. Parentheses around a whole filter are dropped. -/
def selector : Reader Cause Selector := do
  match ← peek with
  | some c =>
    if isQuote c then .name <$> readQuoted
    else if c = '*' then
      skip
      pure .wildcard
    else if c = '?' then
      skip
      (fun f => .filter f.ungroup) <$> g.filter
    else if c = ':' ∨ startsNumber c then indexOrSlice
    else fail .badSelector
  | none => fail .unexpectedEnd

/-- The selectors up to the closing bracket, of which there is one at least. -/
def selectorsRule : Reader Cause Segment := do
  skipBlank
  let first ← g.selector
  skipBlank
  match ← peek with
  | some c =>
    if c = ',' then
      skip
      (first :: ·) <$> g.selectors
    else if c = ']' then
      skip
      pure [first]
    else fail (.unexpected c)
  | none => fail .unexpectedEnd

/-- Selectors in brackets, behind the opening bracket. -/
def brackets : Reader Cause Segment := do
  skipBlank
  if (← peek) = some ']' then fail .emptyBracket else g.selectors

/-- What stands behind two points. -/
def descendants : Reader Cause Segment := do
  match ← peek with
  | some c =>
    if c = '*' then
      skip
      pure (Segment.descendant [.wildcard])
    else if c = '[' then
      skip
      Segment.descendant <$> g.brackets
    else if isNameStart c then (fun key => Segment.descendant [.name key]) <$> readName
    else fail .noDescentSelector
  | none => fail .noDescentSelector

/-- What stands behind a single point. -/
def member : Reader Cause Segment := do
  skipBlank
  if (← peek) = some '*' then
    skip
    pure [.wildcard]
  else (fun key => [.name key]) <$> readName

/-- A segment, from its point or bracket on. -/
def segment : Reader Cause Segment := do
  if ← lookingAt ['.', '.'] then
    skipMany 2
    g.descendants
  else if (← peek) = some '[' then
    skip
    g.brackets
  else
    expect '.'
    member

/-- The segments that come next. White space is consumed only in front of a segment. -/
def segmentsRule : Reader Cause (List Segment) := do
  if (← peekBehindBlank).any opensSegment then
    skipBlank
    let first ← g.segment
    (first :: ·) <$> g.segments
  else pure []

/-! ## Terms and filters -/

/-- A call, from the function name on. -/
def call : Reader Cause Term := do
  let function ← readFunctionName
  skipBlank
  if (← peek) = some '(' then
    skip
    skipBlank
    let args ← if (← peek) = some ')' then pure [] else g.arguments
    skipBlank
    expect ')'
    pure (.call function args)
  else fail (.noArguments function)

/-- A path from the candidate under test, behind its sign, or the candidate itself. -/
def currentTerm : Reader Cause Term := do
  if (← peek).any opensSegment then .path .current <$> g.segments else pure .current

/-- A path from the document, behind its sign, or the document itself. -/
def rootTerm : Reader Cause Term := do
  match ← g.segments with
  | [] => pure .root
  | segments => pure (.path .root segments)

/-- A keyword or a call. -/
def word : Reader Cause Term := do
  match ← readKeyword with
  | some value => pure (.literal value)
  | none => g.call

/-- A term. -/
def term : Reader Cause Term := do
  skipBlank
  match ← peek with
  | some c =>
    if c = '@' then
      skip
      g.currentTerm
    else if c = '$' then
      skip
      g.rootTerm
    else if isQuote c then (fun s => .literal (.string s)) <$> readQuoted
    else if startsNumber c then .literal <$> readNumber
    else if isSmallLetter c then g.word
    else fail .noTerm
  | none => fail .unexpectedEnd

/-- The rest of a comparison behind its left side, or the test that the left side makes alone. -/
def comparison (left : Term) : Reader Cause Filter := do
  skipBlank
  match ← peekComparison with
  | some op =>
    skipMany (signLength op)
    (.comparison op left ·) <$> g.term
  | none =>
    match left.test? with
    | some f => pure f
    | none => fail .noComparison

/-- A filter without a connective outside parentheses. -/
def unaryRule : Reader Cause Filter := do
  skipBlank
  let c ← peek
  if c = some '!' then
    skip
    .negation <$> g.unary
  else if c = some '(' then
    skip
    let f ← g.filter
    skipBlank
    expect ')'
    pure (.group f)
  else
    let left ← g.term
    g.comparison left

/-- The rest of a conjunction, which groups to the left. -/
def conjunctionRule (left : Filter) : Reader Cause Filter := do
  skipBlank
  if ← lookingAt ['&', '&'] then
    skipMany 2
    let right ← g.unary
    g.conjunction (.logic .and left right)
  else pure left

/-- A filter without a disjunction outside parentheses. -/
def conjunctive : Reader Cause Filter := do
  let left ← g.unaryRule
  g.conjunctionRule left

/-- The rest of a disjunction, which groups to the left. -/
def disjunctionRule (left : Filter) : Reader Cause Filter := do
  skipBlank
  if ← lookingAt ['|', '|'] then
    skipMany 2
    let right ← g.conjunctive
    g.disjunction (.logic .or left right)
  else pure left

/-- A filter. -/
def filterRule : Reader Cause Filter := do
  let left ← g.conjunctive
  g.disjunctionRule left

/-- An argument: a term, unless a sign behind it or a negation or parenthesis in front shows it to be a
filter. -/
def argument : Reader Cause Argument := do
  skipBlank
  let c ← peek
  if c = some '!' ∨ c = some '(' then .filter <$> g.filterRule
  else
    let left ← g.term
    skipBlank
    if ← lookingAtSign then
      let test ← g.comparison left
      let test ← g.conjunctionRule test
      .filter <$> g.disjunctionRule test
    else pure (.term left)

/-- The arguments of a call, with a comma between two of them. -/
def argumentsRule : Reader Cause (List Argument) := do
  let first ← g.argument
  skipBlank
  if (← peek) = some ',' then
    skip
    (first :: ·) <$> g.arguments
  else pure [first]

/-! ## The circle closed -/

/-- The grammar whose parts contain the parts of `g`. -/
def step : Grammar where
  segments := g.segmentsRule
  selectors := g.selectorsRule
  filter := g.filterRule
  unary := g.unaryRule
  conjunction := g.conjunctionRule
  disjunction := g.disjunctionRule
  arguments := g.argumentsRule

/-- The grammar that reads nothing. -/
def nothing : Grammar where
  segments := fail .unexpectedEnd
  selectors := fail .unexpectedEnd
  filter := fail .unexpectedEnd
  unary := fail .unexpectedEnd
  conjunction _ := fail .unexpectedEnd
  disjunction _ := fail .unexpectedEnd
  arguments := fail .unexpectedEnd

/-- The grammar whose parts contain each other up to a depth. -/
def upTo : Nat → Grammar
  | 0 => nothing
  | n + 1 => (upTo n).step

end Grammar

/-- The grammar of paths. A part that contains another one is longer, so the length of the text bounds
how deep its parts can be. -/
def grammar : Grammar where
  segments s := (Grammar.upTo (s.length + 1)).segments s
  selectors s := (Grammar.upTo (s.length + 1)).selectors s
  filter s := (Grammar.upTo (s.length + 1)).filter s
  unary s := (Grammar.upTo (s.length + 1)).unary s
  conjunction left s := (Grammar.upTo (s.length + 1)).conjunction left s
  disjunction left s := (Grammar.upTo (s.length + 1)).disjunction left s
  arguments s := (Grammar.upTo (s.length + 1)).arguments s

namespace Path

open Reader Lexeme

/-- A whole path: the sign of the document and segments, with nothing but white space behind them. -/
def reader : Reader Cause Path := do
  if (← peek) = some '$' then
    skip
    let segments ← grammar.segments
    skipBlank
    match ← peek with
    | some c => fail (.unexpected c)
    | none => pure ⟨segments⟩
  else fail .noRoot

/-- The number of bytes of a text in UTF-8. -/
def byteCount : List Char → Nat
  | [] => 0
  | c :: rest => c.utf8Size + byteCount rest

/-- The path that a text holds, or why it holds none. -/
def read (text : String) : Except ReadError Path :=
  match reader text.toList with
  | .done p _ => .ok p
  | .failed cause rest => .error ⟨cause, byteCount text.toList - byteCount rest⟩

end Path

end PathQuery
