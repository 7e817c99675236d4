import PathQuery.Pattern.Meaning
import PathQuery.Unicode.Age
import PathQuery.Unicode.Break
import PathQuery.Unicode.Script

/-!
# Properties by name

A pattern names a set of characters by a property: a general category or a group of them, a script, a
binary property, the age of characters, or their kind where texts break. Names are compared without
regard to case, blanks, hyphens and underscores, and without a leading `is`.

## Main definitions

* `normalize` — the form in which names are compared.
* `valuedProperties` — ages and breaks, with the names of their values.
* `propertyByName?`, `propertyByValue?` — the set that a name, or a property and a value, stand for.
* `PropertyQuery.set?`, `Shorthand.set` — the sets of the properties and classes that a pattern names.
-/

namespace PathQuery.Pattern

open Unicode

/-- A name as it is compared: its ASCII characters in lower case, without blanks, hyphens, underscores
and a leading `is`. -/
def normalize (name : List Char) : List Char :=
  let fold (cs : List Char) : List Char :=
    (cs.filter fun c => c != ' ' && c != '_' && c != '-' && c.toNat < 0x80).map Char.toLower
  match name with
  | i :: s :: rest =>
    if (i = 'i' ∨ i = 'I') ∧ (s = 's' ∨ s = 'S') then
      let rest := fold rest
      if rest = ['c'] then ['i', 's', 'c'] else rest
    else fold name
  | _ => fold name

/-- Whether a normalized name is that of a property or of a value. -/
def isNamed (name : List Char) (official : String) : Bool := normalize official.toList = name

/-- The set of characters of a general category or of a group of categories. -/
def categoryByName? (name : List Char) : Option CharSet :=
  if name = ['a', 'n', 'y'] then some fun _ => true
  else if name = ['a', 's', 's', 'i', 'g', 'n', 'e', 'd'] then some fun n => category n ≠ .cn
  else if name = ['a', 's', 'c', 'i', 'i'] then some fun n => n < 0x80
  else
    match (Category.all.filter (· ≠ .cs)).find? fun c => c.names.any (isNamed name) with
    | some c => some fun n => category n = c
    | none => (categoryGroups.find? fun g => g.1.any (isNamed name)).map fun g n => g.2 (category n)

/-- The abbreviation of a script. -/
def scriptByName? (name : List Char) : Option String :=
  (scriptNames.find? fun s => isNamed name s.1 || isNamed name s.2).map (·.1)

/-- The set of characters of a binary property. -/
def binaryByName? (name : List Char) : Option CharSet :=
  (binaryProperties.find? fun p => p.1.any (isNamed name)).map (·.2)

/-- The set that a single name stands for: a binary property, a category, or a script. -/
def propertyByName? (name : List Char) : Option CharSet :=
  let name := normalize name
  match binaryByName? name with
  | some p => some p
  | none =>
    match categoryByName? name with
    | some p => some p
    | none => (scriptByName? name).map fun code n => script n == code

/-- Properties with values that have names for them alone. An age is that of all characters which are not
younger. -/
def valuedProperties : List (List String × List (List String × CharSet)) :=
  [(["Age"], versions.map fun version => (versionNames version, isPresent version)),
   (["Grapheme_Cluster_Break", "GCB"], graphemeBreaks),
   (["Word_Break", "WB"], wordBreaks),
   (["Sentence_Break", "SB"], sentenceBreaks)]

/-- The set that a property with a value stands for. -/
def propertyByValue? (property value : List Char) : Option CharSet :=
  let property := normalize property
  let value := normalize value
  if isNamed property "General_Category" || isNamed property "gc" then categoryByName? value
  else if isNamed property "Script" || isNamed property "sc" then
    (scriptByName? value).map fun code n => script n == code
  else if isNamed property "Script_Extensions" || isNamed property "scx" then
    (scriptByName? value).map fun code n => (scriptExtensions n).contains code
  else
    match valuedProperties.find? fun p => p.1.any (isNamed property) with
    | some (_, values) => (values.find? fun v => v.1.any (isNamed value)).map (·.2)
    | none => none

/-- The set that a property stands for. -/
def PropertyQuery.set? : PropertyQuery → Option CharSet
  | .name text => propertyByName? text
  | .value property text => propertyByValue? property text

/-! ## Classes with a letter of their own -/

/-- The characters of words: alphabetic ones, marks, decimal digits, connectors and joiners. -/
def unicodeWord : CharSet := fun n =>
  if n < 0x80 then asciiWord n
  else alphabetic n || (category n).isMark || category n = .nd
    || category n = .pc || n = 0x200C || n = 0x200D

/-- The set of a class with a letter of its own. -/
def Shorthand.set : Shorthand → CharSet
  | .digit => fun n => category n = .nd
  | .space => whiteSpace
  | .word => unicodeWord

end PathQuery.Pattern
