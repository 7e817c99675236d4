import PathQuery.Json.Writer

/-!
# Locations

A location is the way from the document down to one of its parts: a step into an object is a member name
and a step into an array is a position. The start itself is a step as well, so that no location is empty.

A location has two texts. Its pointer is a path with one quoted name or index to a step, which selects
exactly the part at the location; its JSON pointer separates the steps by slashes and does not tell names
from positions.

## Main definitions

* `Step` — one step of a location.
* `Location.pointer`, `Location.jsonPointer` — the two texts.
* `Json.at?` — the part of a document at a location.
-/

namespace PathQuery

/-- One step of a location. -/
inductive Step where
  /-- The start, which leads nowhere. -/
  | root
  /-- Into the member of an object. -/
  | key (name : String)
  /-- Into the element of an array. -/
  | index (i : Nat)
deriving DecidableEq, Repr

/-- The way from a document to one of its parts. -/
abbrev Location := List Step

namespace Step

/-- A step by itself: a name stands without quotes. -/
def chars : Step → List Char
  | root => ['$']
  | key name => name.toList
  | index i => Nat.toDigits 10 i

/-- A step of a pointer. -/
def pointerChars : Step → List Char
  | root => []
  | key name => '[' :: (Quoted.encode '\'' name.toList ++ [']'])
  | index i => '[' :: (Nat.toDigits 10 i ++ [']'])

/-- A character of a name in a JSON pointer: the two that have a meaning there are escaped. -/
def tokenChar (c : Char) : List Char :=
  if c = '~' then ['~', '0'] else if c = '/' then ['~', '1'] else [c]

/-- A step of a JSON pointer. -/
def tokenChars : Step → List Char
  | root => []
  | key name => '/' :: name.toList.flatMap tokenChar
  | index i => '/' :: Nat.toDigits 10 i

/-- The part of a document that a step leads to. -/
def target? : Step → Json → Option Json
  | root, v => some v
  | key name, .object members => Json.member? name members
  | index i, .array items => items[i]?
  | _, _ => none

end Step

namespace Location

/-- The path that selects the part at a location. -/
def pointer (l : Location) : String := String.ofList ('$' :: l.flatMap Step.pointerChars)

/-- The JSON pointer of a location. -/
def jsonPointer (l : Location) : String := String.ofList (l.flatMap Step.tokenChars)

end Location

/-- The part of a document at a location, if there is one. -/
def Json.at? (document : Json) : Location → Option Json
  | [] => some document
  | step :: rest => (step.target? document).bind (·.at? rest)

end PathQuery
