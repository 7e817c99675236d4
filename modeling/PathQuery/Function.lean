import PathQuery.Operand
import PathQuery.Pattern
import PathQuery.Log

/-!
# Functions

Filters can call five functions. None of them fails: a call that makes no sense gives nothing, zero or
false. Two test a string against a pattern of the engine, and there both the string and the pattern may
be a list of one. An engine for patterns is at hand, but none of the functions depends on it.

## Main definitions

* `Function`, `Function.named?` — the functions and their names.
* `Function.arity` — how many arguments a function takes.
* `lengthOf`, `countOf`, `valueOf`, `testPattern` — what they compute.
* `Function.apply`, `callByName` — calls.
-/

namespace PathQuery

/-- The functions that a filter can call. -/
inductive Function where
  | length | count | whole | search | value
deriving DecidableEq, Repr

namespace Function

/-- All functions. -/
def all : List Function := [length, count, whole, search, value]

/-- The name of a function. -/
def name : Function → String
  | length => "length"
  | count => "count"
  | whole => "match"
  | search => "search"
  | value => "value"

/-- The function of a name. -/
def named? (name : String) : Option Function := all.find? (·.name == name)

/-- How many arguments a function takes. -/
def arity : Function → Nat
  | whole | search => 2
  | _ => 1

/-- How much of a string the pattern has to match, for the functions that test one. -/
def extent? : Function → Option Extent
  | whole => some .whole
  | search => some .anywhere
  | _ => none

end Function

/-! ## What functions compute -/

/-- The length of a value: the characters of a string, the elements of an array, the members of an
object. -/
def Json.length? : Json → Option Nat
  | .string s => some s.length
  | .array items => some items.length
  | .object ms => some ms.length
  | _ => none

/-- The length of an operand; for several values, how many there are. -/
def lengthOf : Operand → Operand
  | .nothing => .nothing
  | .nodes vs => .owned (.ofNat vs.length)
  | .node v | .owned v =>
    match v.length? with
    | some n => .owned (.ofNat n)
    | none => .nothing

/-- How many values an operand holds; an array counts by its elements. -/
def countOf : Operand → Nat
  | .nothing => 0
  | .nodes vs => vs.length
  | .node (.array items) | .owned (.array items) => items.length
  | _ => 1

/-- The single value of an operand; an array must have one element, which is taken out. -/
def valueOf : Operand → Operand
  | .nodes [v] => .node v
  | .nodes _ => .nothing
  | .node (.array [v]) => .node v
  | .node (.array _) => .nothing
  | .owned (.array [v]) => .owned v
  | .owned (.array _) => .nothing
  | x => x

section Tests

variable [Engine]

/-- Whether an operand is a string that has a match of a pattern in it. -/
def testPattern (subject : Operand) (p : Engine.Pattern) : Bool :=
  match subject.content.string? with
  | some s => Engine.test p s
  | none => false

/-- The pattern of a text. A text that is no pattern is recorded. -/
def readPattern (extent : Extent) (text : String) : Logged (Option Engine.Pattern) :=
  match Engine.read? extent text with
  | some p => pure (some p)
  | none => do
    Logged.record (.badPattern extent text)
    pure none

/-- Tests an operand against the pattern that another one holds. -/
def testOperand (extent : Extent) (subject pattern : Operand) : Logged Bool :=
  match pattern.content.string? with
  | some text => do
    match ← readPattern extent text with
    | some p => pure (testPattern subject p)
    | none => pure false
  | none => pure false

end Tests

/-! ## Calls -/

namespace Function

/-- What a call gives that has the wrong number of arguments. -/
def fallback : Function → Operand
  | length | value => .nothing
  | count => .owned (.ofNat 0)
  | whole | search => .owned (.bool false)

/-- Calls a function. A wrong number of arguments is recorded. -/
def apply [Engine] (f : Function) (args : List Operand) : Logged Operand :=
  match f, args with
  | length, [x] => pure (lengthOf x)
  | count, [x] => pure (.owned (.ofNat (countOf x)))
  | value, [x] => pure (valueOf x)
  | whole, [x, pattern] => (.owned ∘ .bool) <$> testOperand .whole x pattern
  | search, [x, pattern] => (.owned ∘ .bool) <$> testOperand .anywhere x pattern
  | f, args => do
    Logged.record (.wrongArity f.name f.arity args.length)
    pure f.fallback

end Function

/-- Calls the function of a name. A name without a function is recorded and gives nothing. -/
def callByName [Engine] (name : String) (args : List Operand) : Logged Operand :=
  match Function.named? name with
  | some f => f.apply args
  | none => do
    Logged.record (.unknownFunction name)
    pure .nothing

end PathQuery
