import PathQuery.Path.Basic
import PathQuery.Json.Writer
import PathQuery.Text.Class

/-!
# The text of a path

Every path has one text. A segment of one bare name or of a wildcard is written behind a point, any other
segment in brackets, and a descending segment behind two points. Names that are no bare names stand in
apostrophes. Around an operand of a connective or of a negation stand parentheses where it would
otherwise bind differently; a group has parentheses of its own.

Any path can be written, those that no text stands for as well: their text then reads back differently
or not at all.

## Main definitions

* `isBareName` — names that need no quotes.
* `Filter.strength` — how tightly a filter binds.
* `Selector.chars`, `Filter.chars`, `Term.chars`, `Segment.chars` — the characters of the parts of a path.
* `Path.text` — the text of a path.
-/

namespace PathQuery

/-! ## Operators and names -/

/-- The sign of a comparison. -/
def CompareOp.chars : CompareOp → List Char
  | eq => ['=', '=']
  | ne => ['!', '=']
  | lt => ['<']
  | le => ['<', '=']
  | gt => ['>']
  | ge => ['>', '=']

/-- The sign of a connective. -/
def LogicOp.chars : LogicOp → List Char
  | and => ['&', '&']
  | or => ['|', '|']

/-- The sign of the place where a path starts. -/
def Anchor.char : Anchor → Char
  | current => '@'
  | root => '$'

/-- Whether a name can be written without quotes. -/
def isBareName : List Char → Bool
  | [] => false
  | c :: rest => isNameStart c && rest.all isNameChar

/-- A name in apostrophes. -/
def quotedName (name : String) : List Char := Quoted.encode '\'' name.toList

/-- How tightly a connective binds. -/
def LogicOp.strength : LogicOp → Nat
  | or => 1
  | and => 2

/-- How tightly a filter binds: a disjunction binds least, then a conjunction, then all others. -/
def Filter.strength : Filter → Nat
  | .logic op _ _ => op.strength
  | _ => 3

/-- An integer that may be left out. -/
def optionalInt (i : Option Int64) : List Char :=
  match i with
  | some i => intChars i.toInt
  | none => []

/-- The parts of a slice. -/
def sliceChars (start stop step : Option Int64) : List Char :=
  optionalInt start ++ ':' :: (optionalInt stop ++
    match step with
    | some i => ':' :: intChars i.toInt
    | none => [])

/-- Puts parentheses around the text of an operand if it binds less tightly than `least`. -/
def operandChars (strength least : Nat) (chars : List Char) : List Char :=
  if strength < least then '(' :: (chars ++ [')']) else chars

/-- The short form of selectors that need no brackets: one bare name, or a wildcard. -/
def shortForm? : List Selector → Option (List Char)
  | [.name key] => if isBareName key.toList then some key.toList else none
  | [.wildcard] => some ['*']
  | _ => none

/-- The characters of a segment, from those that its selectors have in brackets and those of what they
apply below their node. -/
def Segment.spell (s : Segment) (whole inner : List Char) : List Char :=
  if s.isRecursive then
    match shortForm? (s.map Selector.inner) with
    | some short => '.' :: '.' :: short
    | none => '.' :: '.' :: '[' :: (inner ++ [']'])
  else
    match shortForm? s with
    | some short => '.' :: short
    | none => '[' :: (whole ++ [']'])

/-! ## Paths and filters -/

mutual

/-- The characters of a selector, as it stands in brackets. -/
def Selector.chars : Selector → List Char
  | .name key => quotedName key
  | .index i => intChars i.toInt
  | .slice start stop step => sliceChars start stop step
  | .wildcard => ['*']
  | .filter test => '?' :: Filter.chars test
  | .descent inner => '.' :: '.' :: '[' :: (Selector.chars inner ++ [']'])

/-- The characters of a filter. -/
def Filter.chars : Filter → List Char
  | .comparison op left right => Term.chars left ++ ' ' :: (op.chars ++ ' ' :: Term.chars right)
  | .logic op left right =>
    operandChars left.strength op.strength (Filter.chars left) ++ ' ' :: (op.chars ++
      ' ' :: operandChars right.strength (op.strength + 1) (Filter.chars right))
  | .existence anchor segments => anchor.char :: segmentsChars segments
  | .call function args => function.toList ++ '(' :: (argumentsChars args ++ [')'])
  | .group inner => '(' :: (Filter.chars inner ++ [')'])
  | .negation inner => '!' :: operandChars inner.strength 3 (Filter.chars inner)

/-- The characters of a term. -/
def Term.chars : Term → List Char
  | .current => ['@']
  | .root => ['$']
  | .literal value => value.chars
  | .path anchor segments => anchor.char :: segmentsChars segments
  | .call function args => function.toList ++ '(' :: (argumentsChars args ++ [')'])

/-- The characters of an argument. -/
def Argument.chars : Argument → List Char
  | .term t => Term.chars t
  | .filter f => Filter.chars f
  | .path segments => '@' :: segmentsChars segments

/-- The characters of arguments, with a comma and a blank between two of them. -/
def argumentsChars : List Argument → List Char
  | [] => []
  | [a] => Argument.chars a
  | a :: b :: rest => Argument.chars a ++ ',' :: ' ' :: argumentsChars (b :: rest)

/-- The characters of selectors, with a comma and a blank between two of them. -/
def selectorsChars : List Selector → List Char
  | [] => []
  | [s] => Selector.chars s
  | s :: t :: rest => Selector.chars s ++ ',' :: ' ' :: selectorsChars (t :: rest)

/-- The characters of what descents apply, with a comma and a blank between two of them. -/
def innerChars : List Selector → List Char
  | [] => []
  | [s] => Selector.innerChars s
  | s :: t :: rest => Selector.innerChars s ++ ',' :: ' ' :: innerChars (t :: rest)

/-- The characters of what a descent applies; other selectors apply nothing below their node. -/
def Selector.innerChars : Selector → List Char
  | .descent s => Selector.chars s
  | _ => []

/-- The characters of segments. -/
def segmentsChars : List (List Selector) → List Char
  | [] => []
  | s :: rest => Segment.spell s (selectorsChars s) (innerChars s) ++ segmentsChars rest

end

/-- The characters of one segment. -/
def Segment.chars (s : Segment) : List Char := s.spell (selectorsChars s) (innerChars s)

/-- The text of a path. -/
def Path.text (p : Path) : String := String.ofList ('$' :: segmentsChars p.segments)

end PathQuery
