/-!
# Patterns as they are written

The tree of a pattern keeps what is written: literals with the way they are spelt, groups, classes in
brackets with their set operations, and the places where flags change. What it matches is worked out
from the tree afterwards, because the flags in force decide what a literal or a class stands for.

## Main definitions

* `Flag`, `Assertion`, `Shorthand`, `PropertyQuery` — the parts without parts.
* `ClassItem`, `ClassSet` — classes in brackets.
* `Tree` — patterns.
* `Tree.depth` — how deep the parts of a pattern are nested.
* `Tree.names` — the names of its groups.
-/

namespace PathQuery.Pattern

/-- What a pattern can switch on and off. -/
inductive Flag where
  | ignoreCase | multiLine | dotAll | swapGreed | unicode | crlf | verbose
deriving DecidableEq, Repr

/-- Changes of flags, in the order in which they are written: on, or off. -/
abbrev FlagChanges := List (Flag × Bool)

/-- Conditions on the place between two characters. -/
inductive Assertion where
  | lineStart | lineEnd | textStart | textEnd
  | wordBoundary | noWordBoundary
  | wordStart | wordEnd | wordStartHalf | wordEndHalf
deriving DecidableEq, Repr

/-- The classes with a letter of their own. -/
inductive Shorthand where
  | digit | space | word
deriving DecidableEq, Repr

/-- How a property is asked for. -/
inductive PropertyQuery where
  | name (name : List Char)
  | value (property value : List Char)
deriving DecidableEq, Repr

/-- The classes of ASCII characters that have a name. -/
inductive AsciiClass where
  | alnum | alpha | ascii | blank | cntrl | digit | graph | lower | print | punct | space | upper
  | word | xdigit
deriving DecidableEq, Repr

/-- The operations on classes. -/
inductive SetOp where
  | intersection | difference | symmetricDifference
deriving DecidableEq, Repr

/-- A character in a pattern, and whether it is spelt as a byte of two hexadecimal digits. -/
structure Literal where
  char : Char
  isByte : Bool
deriving DecidableEq, Repr

mutual

/-- An element of a class in brackets. -/
inductive ClassItem where
  | literal (c : Literal)
  | range (first last : Literal)
  | ascii (kind : AsciiClass) (negated : Bool)
  | shorthand (kind : Shorthand) (negated : Bool)
  | property (query : PropertyQuery) (negated : Bool)
  | brackets (negated : Bool) (content : ClassSet)

/-- What stands between brackets: elements, or an operation on two such sets. -/
inductive ClassSet where
  | union (items : List ClassItem)
  | op (kind : SetOp) (left right : ClassSet)

end

/-- Parentheses: counted, named, or with flags of their own. -/
inductive GroupKind where
  | capture
  | named (name : List Char)
  | scoped (flags : FlagChanges)
deriving DecidableEq, Repr

/-- A pattern. -/
inductive Tree where
  | empty
  | flags (changes : FlagChanges)
  | literal (c : Literal)
  | dot
  | assertion (kind : Assertion)
  | shorthand (kind : Shorthand) (negated : Bool)
  | property (query : PropertyQuery) (negated : Bool)
  | brackets (negated : Bool) (content : ClassSet)
  /-- At least `least` times, and at most `most` times if that is given. -/
  | repetition (body : Tree) (least : Nat) (most : Option Nat)
  | group (kind : GroupKind) (body : Tree)
  | alternation (branches : List Tree)
  | sequence (parts : List Tree)

/-! ## Nesting -/

mutual

/-- How deep the elements of a class are nested. -/
def ClassItem.depth : ClassItem → Nat
  | .brackets _ content => content.depth + 1
  | _ => 0

/-- How deep a set is nested; a set of one element adds nothing. -/
def ClassSet.depth : ClassSet → Nat
  | .union [] => 0
  | .union [item] => item.depth
  | .union items => itemsDepth items + 1
  | .op _ left right => max left.depth right.depth + 1

/-- How deep the deepest of some elements is nested. -/
def itemsDepth : List ClassItem → Nat
  | [] => 0
  | item :: rest => max item.depth (itemsDepth rest)

end

mutual

/-- How deep the parts of a pattern are nested. -/
def Tree.depth : Tree → Nat
  | .brackets _ content => content.depth + 1
  | .repetition body _ _ => body.depth + 1
  | .group _ body => body.depth + 1
  | .alternation branches => treesDepth branches + 1
  | .sequence parts => treesDepth parts + 1
  | _ => 0

/-- How deep the deepest of some patterns is nested. -/
def treesDepth : List Tree → Nat
  | [] => 0
  | t :: rest => max t.depth (treesDepth rest)

end

/-! ## Names of groups -/

mutual

/-- The names of the groups of a pattern. -/
def Tree.names : Tree → List (List Char)
  | .repetition body _ _ => body.names
  | .group (.named name) body => name :: body.names
  | .group _ body => body.names
  | .alternation branches => treesNames branches
  | .sequence parts => treesNames parts
  | _ => []

/-- The names of the groups of some patterns. -/
def treesNames : List Tree → List (List Char)
  | [] => []
  | t :: rest => t.names ++ treesNames rest

end

end PathQuery.Pattern
