import PathQuery.Pattern.Tree
import PathQuery.Reader
import PathQuery.Text.Class

/-!
# Reading patterns

Patterns are read by recursive descent over groups and brackets. One flag acts while reading: in a
verbose pattern, white space and comments between the parts are passed over. It may change inside a
group, in force from there to the end of the group, so it is handed from part to part.

What looks ahead or behind, and what refers back to a group, is no part of these patterns, and neither
is a backslash in front of a letter without a meaning.

## Main definitions

* `dropSpace` — what is passed over in a verbose pattern.
* `readEscape` — what stands behind a backslash.
* `readBrackets` — classes in brackets.
* `readBranches` — patterns.
* `Tree.read?` — the pattern that a text holds.
-/

namespace PathQuery.Pattern

open Reader

/-- Readers of the parts of a pattern. -/
abbrev Scan (α : Type) : Type := Reader Malformed α

/-- The failure of such a reader. -/
def refuse {α : Type} : Scan α := fail .malformed

/-! ## White space and comments -/

/-- A text without the white space and the comments in front of it, starting inside a comment or not. A
comment runs from `#` to the end of the line. -/
def dropSpaceFrom (inComment : Bool) : List Char → List Char
  | [] => []
  | c :: rest =>
    if inComment then dropSpaceFrom (c != '\n') rest
    else if isBlank c then dropSpaceFrom false rest
    else if c = '#' then dropSpaceFrom true rest
    else c :: rest

/-- What is left behind the white space and comments in front, which only a verbose pattern has. -/
def dropSpace (verbose : Bool) (s : List Char) : List Char :=
  if verbose then dropSpaceFrom false s else s

/-- Passes over white space and comments in a verbose pattern. -/
def skipSpace (verbose : Bool) : Scan Unit := fun s => .done () (dropSpace verbose s)

/-- Passes over one character and over what may follow it in a verbose pattern. -/
def step (verbose : Bool) : Scan Unit := fun s => .done () (dropSpace verbose s.tail)

/-- The next character, of which there must be one. -/
def peekChar : Scan Char := do
  match ← peek with
  | some c => pure c
  | none => refuse

/-- Passes over one character and refuses the end of the text behind it. -/
def stepWithin (verbose : Bool) : Scan Unit := do
  step verbose
  let _ ← peekChar

/-- The longest run of characters of a class, with white space between them in a verbose pattern, out of
the next `n` characters. -/
def spacedRun (verbose : Bool) (p : Char → Bool) : Nat → List Char → List Char × List Char
  | n + 1, c :: rest =>
    if p c then
      let (run, rest) := spacedRun verbose p n (dropSpace verbose rest)
      (c :: run, rest)
    else ([], c :: rest)
  | _, s => ([], s)

/-- The longest run of characters of a class, with white space between them in a verbose pattern. -/
def takeSpaced (verbose : Bool) (p : Char → Bool) : Scan (List Char) := fun s =>
  let (run, rest) := spacedRun verbose p s.length s
  .done run rest

/-! ## Escapes -/

/-- Characters with a meaning in patterns. -/
def isMeta (c : Char) : Bool := "\\.+*?()|[]\x7b\x7d^$#&-~".toList.contains c

/-- Characters that stand for themselves behind a backslash: the ASCII characters that are no letters
and no digits, and not the two angle brackets. -/
def isEscapable (c : Char) : Bool :=
  isMeta c || (c.toNat < 0x80 && !c.isAlphanum && c != '<' && c != '>')

/-- The character of a code point. -/
def charOf? (n : Nat) : Option Char := if n.isValidChar then some (Char.ofNat n) else none

/-- Takes some number of hexadecimal digits off the text. -/
def readHexDigits (verbose : Bool) : Nat → Scan (List Char)
  | 0 => pure []
  | n + 1 => do
    let c ← peekChar
    if isHex c then
      step verbose
      (c :: ·) <$> readHexDigits verbose n
    else refuse

/-- The character that a run of hexadecimal digits names. -/
def charOfHex (digits : List Char) : Scan Char :=
  match (natOfHex? digits).bind charOf? with
  | some c => pure c
  | none => refuse

/-- Takes a character by its code point off the text, from the letter on that says how many digits it
has; in braces it has any number of them. -/
def readHex (verbose : Bool) (letter : Char) : Scan Literal := do
  let count := if letter = 'x' then 2 else if letter = 'u' then 4 else 8
  stepWithin verbose
  if (← peekChar) = '\x7b' then
    stepWithin verbose
    let digits ← takeSpaced verbose isHex
    if (← peekChar) = '\x7d' ∧ !digits.isEmpty then
      step verbose
      (⟨·, false⟩) <$> charOfHex digits
    else refuse
  else
    let digits ← readHexDigits verbose count
    (⟨·, count == 2⟩) <$> charOfHex digits

/-- What stands before and behind the first place where `mark` stands. -/
def splitAt? (mark : List Char) : List Char → Option (List Char × List Char)
  | [] => none
  | c :: rest =>
    if mark.isPrefixOf (c :: rest) then some ([], (c :: rest).drop mark.length)
    else (splitAt? mark rest).map fun (before, behind) => (c :: before, behind)

/-- The property that a text in braces asks for, and whether it asks for the opposite. -/
def queryOf (text : List Char) : PropertyQuery × Bool :=
  match splitAt? ['!', '='] text with
  | some (property, value) => (.value property value, true)
  | none =>
    match splitAt? [':'] text with
    | some (property, value) => (.value property value, false)
    | none =>
      match splitAt? ['='] text with
      | some (property, value) => (.value property value, false)
      | none => (.name text, false)

/-- Takes a property off the text, from its letter on, which is a capital for the opposite. -/
def readProperty (verbose : Bool) (letter : Char) : Scan Tree := do
  stepWithin verbose
  let c ← peekChar
  if c = '\x7b' then
    stepWithin verbose
    let text ← takeSpaced verbose (· != '\x7d')
    let _ ← peekChar
    skip
    let (query, opposite) := queryOf text
    pure (.property query ((letter == 'P') != opposite))
  else if c = '\\' then refuse
  else
    step verbose
    pure (.property (.name [c]) (letter == 'P'))

/-- The conditions on word boundaries that are named in braces. -/
def wordAssertion? (name : List Char) : Option Assertion :=
  if name = "start".toList then some .wordStart
  else if name = "end".toList then some .wordEnd
  else if name = "start-half".toList then some .wordStartHalf
  else if name = "end-half".toList then some .wordEndHalf
  else none

/-- Takes a word boundary off the text, behind its letter. Braces with a name in them say which one; any
other braces count repetitions. -/
def readWordBoundary (verbose : Bool) : Scan Tree := fun s =>
  match s with
  | '\x7b' :: rest =>
    match dropSpace verbose rest with
    | [] => .failed .malformed s
    | c :: rest =>
      let ofName (c : Char) : Bool := c.isAlpha || c == '-'
      if ofName c then
        let (name, rest) := spacedRun verbose ofName (rest.length + 1) (c :: rest)
        match rest, wordAssertion? name with
        | '\x7d' :: rest, some a => .done (.assertion a) rest
        | _, _ => .failed .malformed s
      else .done (.assertion .wordBoundary) s
  | _ => .done (.assertion .wordBoundary) s

/-- What a letter behind a backslash stands for that names a character or a condition. -/
def letterTree? (c : Char) : Option Tree :=
  match c with
  | 'a' => some (.literal ⟨'\x07', false⟩)
  | 'f' => some (.literal ⟨'\x0c', false⟩)
  | 't' => some (.literal ⟨'\t', false⟩)
  | 'n' => some (.literal ⟨'\n', false⟩)
  | 'r' => some (.literal ⟨'\r', false⟩)
  | 'v' => some (.literal ⟨'\x0b', false⟩)
  | 'A' => some (.assertion .textStart)
  | 'z' => some (.assertion .textEnd)
  | 'B' => some (.assertion .noWordBoundary)
  | '<' => some (.assertion .wordStart)
  | '>' => some (.assertion .wordEnd)
  | 'd' => some (.shorthand .digit false)
  | 'D' => some (.shorthand .digit true)
  | 's' => some (.shorthand .space false)
  | 'S' => some (.shorthand .space true)
  | 'w' => some (.shorthand .word false)
  | 'W' => some (.shorthand .word true)
  | _ => none

/-- Takes an escape off the text, from its backslash on. -/
def readEscape (verbose : Bool) : Scan Tree := do
  skip
  let c ← peekChar
  if c = 'x' ∨ c = 'u' ∨ c = 'U' then .literal <$> readHex verbose c
  else if c = 'p' ∨ c = 'P' then readProperty verbose c
  else if c = 'b' then
    skip
    readWordBoundary verbose
  else if isEscapable c then
    skip
    pure (.literal ⟨c, false⟩)
  else
    match letterTree? c with
    | some t =>
      skip
      pure t
    | none => refuse

/-! ## Classes in brackets -/

/-- The ASCII class of a name. -/
def asciiClass? (name : List Char) : Option AsciiClass :=
  let names : List (String × AsciiClass) :=
    [("alnum", .alnum), ("alpha", .alpha), ("ascii", .ascii), ("blank", .blank), ("cntrl", .cntrl),
     ("digit", .digit), ("graph", .graph), ("lower", .lower), ("print", .print), ("punct", .punct),
     ("space", .space), ("upper", .upper), ("word", .word), ("xdigit", .xdigit)]
  names.lookup (String.ofList name)

/-- The ASCII class that a text starts with, in its brackets and colons, and what follows it. -/
def asciiItem? (s : List Char) : Option (ClassItem × List Char) :=
  match s with
  | '[' :: ':' :: rest =>
    let (negated, rest) := match rest with
      | '^' :: rest => (true, rest)
      | rest => (false, rest)
    match rest.span (· != ':') with
    | (name, ':' :: ']' :: rest) => (asciiClass? name).map fun kind => (.ascii kind negated, rest)
    | _ => none
  | _ => none

/-- Takes an ASCII class off the text, if it starts with one. -/
def readAscii : Scan (Option ClassItem) := fun s =>
  match asciiItem? s with
  | some (item, rest) => .done (some item) rest
  | none => .done none s

/-- Takes a character or an escape off a class. -/
def readClassPart (verbose : Bool) : Scan Tree := do
  let c ← peekChar
  if c = '\\' then readEscape verbose
  else
    skip
    pure (.literal ⟨c, false⟩)

/-- The element of a class that a part is by itself. -/
def itemOf (t : Tree) : Scan ClassItem :=
  match t with
  | .literal c => pure (.literal c)
  | .shorthand kind negated => pure (.shorthand kind negated)
  | .property query negated => pure (.property query negated)
  | _ => refuse

/-- The element of a class that two parts with a hyphen between them are. -/
def rangeOf (first last : Tree) : Scan ClassItem :=
  match first, last with
  | .literal a, .literal b => if a.char ≤ b.char then pure (.range a b) else refuse
  | _, _ => refuse

/-- Whether a hyphen that comes next makes a range: one in front of the closing bracket or of another
hyphen does not. -/
def startsRange (verbose : Bool) : Scan Bool := fun s =>
  match s with
  | '-' :: rest =>
    let next := (dropSpace verbose rest).head?
    .done (next != some ']' && next != some '-') s
  | _ => .done false s

/-- Takes an element off a class: a part, or two parts with a hyphen between them. -/
def readItem (verbose : Bool) : Scan ClassItem := do
  let first ← readClassPart verbose
  skipSpace verbose
  let _ ← peekChar
  if ← startsRange verbose then
    stepWithin verbose
    let last ← readClassPart verbose
    rangeOf first last
  else itemOf first

/-- The set of elements, given with the last one first, on the right of an operation if there is one. -/
def closeSet (left : Option (SetOp × ClassSet)) (items : List ClassItem) : ClassSet :=
  match left with
  | some (op, left) => .op op left (.union items.reverse)
  | none => .union items.reverse

/-- The operation on classes whose sign of two characters comes next. -/
def setOp? (s : List Char) : Option SetOp :=
  match s with
  | '&' :: '&' :: _ => some .intersection
  | '-' :: '-' :: _ => some .difference
  | '~' :: '~' :: _ => some .symmetricDifference
  | _ => none

/-- The operation on classes that comes next, which is not consumed. -/
def peekSetOp : Scan (Option SetOp) := fun s => .done (setOp? s) s

/-- Takes the hyphens off the text that open a class and stand for themselves, the last one first, of
which there are at most `n`. -/
def readHyphens (verbose : Bool) : Nat → List ClassItem → Scan (List ClassItem)
  | 0, items => pure items
  | n + 1, items => do
    if (← peekChar) = '-' then
      stepWithin verbose
      readHyphens verbose n (.literal ⟨'-', false⟩ :: items)
    else pure items

/-- Takes the opening of a class off the text, from its bracket on: whether it is negated, and the
hyphens or the closing bracket that stand for themselves because they come first. -/
def readOpening (verbose : Bool) : Scan (Bool × List ClassItem) := do
  stepWithin verbose
  let negated := (← peekChar) == '^'
  if negated then stepWithin verbose
  let items ← (fun s => readHyphens verbose s.length [] s : Scan (List ClassItem))
  if items.isEmpty ∧ (← peekChar) = ']' then
    stepWithin verbose
    pure (negated, [.literal ⟨']', false⟩])
  else pure (negated, items)

mutual

/-- Takes a class off the text, from its opening bracket on, nested no deeper than `n`. -/
def readBrackets (verbose : Bool) : Nat → Scan (Bool × ClassSet)
  | 0 => refuse
  | n + 1 => do
    let (negated, items) ← readOpening verbose
    let content ← readSet verbose n none items
    pure (negated, content)

/-- Takes the rest of a class off the text, up to its closing bracket, from the left side of an operation
and the elements that have been read, the last one first. -/
def readSet (verbose : Bool) : Nat → Option (SetOp × ClassSet) → List ClassItem → Scan ClassSet
  | 0, _, _ => refuse
  | n + 1, left, items => do
    skipSpace verbose
    let c ← peekChar
    if c = '[' then
      match ← readAscii with
      | some item => readSet verbose n left (item :: items)
      | none =>
        let (negated, content) ← readBrackets verbose n
        readSet verbose n left (.brackets negated content :: items)
    else if c = ']' then
      skip
      pure (closeSet left items)
    else
      match ← peekSetOp with
      | some op =>
        skipMany 2
        readSet verbose n (some (op, closeSet left items)) []
      | none =>
        let item ← readItem verbose
        readSet verbose n left (item :: items)

end

/-! ## Repetitions -/

/-- Whether something can be repeated: anything but a change of flags. -/
def isRepeatable : Tree → Bool
  | .empty => false
  | .flags _ => false
  | _ => true

/-- Takes a number off the text, with white space around it. -/
def readCount (verbose : Bool) : Scan Nat := do
  skipWhile isBlank
  let digits ← takeSpaced verbose Char.isDigit
  skipWhile isBlank
  skipSpace verbose
  if digits.isEmpty ∨ UInt32.size ≤ natOfDigits digits then refuse else pure (natOfDigits digits)

/-- Takes counts in braces off the text: one number, or a least number and a comma, with or without a
greatest number behind it. -/
def readCounts (verbose : Bool) : Scan (Nat × Option Nat) := do
  stepWithin verbose
  let least ← readCount verbose
  if (← peekChar) = ',' then
    stepWithin verbose
    if (← peekChar) = '\x7d' then pure (least, none)
    else
      let most ← readCount verbose
      if least ≤ most then pure (least, some most) else refuse
  else pure (least, some least)

/-- Takes the sign of a repetition off the text, with the mark behind it that makes it lazy. -/
def readRepetition (verbose : Bool) (sign : Char) : Scan (Nat × Option Nat) := do
  let counts ←
    if sign = '\x7b' then do
      let counts ← readCounts verbose
      if (← peek) = some '\x7d' then
        step verbose
        pure counts
      else refuse
    else do
      skip
      pure (if sign = '?' then (0, some 1) else if sign = '*' then (0, none) else (1, none))
  if (← peek) = some '?' then
    skip
    pure counts
  else pure counts

/-! ## Groups -/

/-- The flag that a letter names. -/
def flag? (c : Char) : Option Flag :=
  match c with
  | 'i' => some .ignoreCase
  | 'm' => some .multiLine
  | 's' => some .dotAll
  | 'U' => some .swapGreed
  | 'u' => some .unicode
  | 'R' => some .crlf
  | 'x' => some .verbose
  | _ => none

/-- The changes that a run of letters makes, those behind a hyphen switching off. There is at most one
hyphen, with a letter behind it, and no letter stands twice. -/
def flagsOf? (on : Bool) (seen : FlagChanges) : List Char → Option FlagChanges
  | [] => some seen.reverse
  | '-' :: rest => if on ∧ !rest.isEmpty then flagsOf? false seen rest else none
  | c :: rest =>
    match flag? c with
    | some f => if seen.any (·.1 == f) then none else flagsOf? on ((f, on) :: seen) rest
    | none => none

/-- What the changes make of the flag of verbose patterns. -/
def applyVerbose (changes : FlagChanges) (verbose : Bool) : Bool :=
  (changes.lookup .verbose).getD verbose

/-- Whether a text can name a group. -/
def isGroupName : List Char → Bool
  | [] => false
  | c :: rest =>
    let starts (c : Char) : Bool := c == '_' || Unicode.alphabetic c.toNat
    starts c && rest.all fun c =>
      starts c || Unicode.numeric c.toNat || c == '.' || c == '[' || c == ']'

/-- How a parenthesis opens: a group, or a change of flags that it closes again at once. -/
inductive Opening where
  | group (kind : GroupKind)
  | change (flags : FlagChanges)

/-- Takes the name of a group off the text, and the angle bracket behind it. -/
def readGroupName : Scan Opening := do
  let name ← takeWhile (· != '>')
  let _ ← peekChar
  skip
  if isGroupName name then pure (.group (.named name)) else refuse

/-- Takes flags off the text, and the colon or the parenthesis behind them. -/
def readFlags : Scan Opening := do
  let letters ← takeWhile fun c => c != ':' && c != ')'
  let ends ← peekChar
  skip
  match flagsOf? true [] letters with
  | some flags =>
    if ends = ':' then pure (.group (.scoped flags))
    else if flags.isEmpty then refuse
    else pure (.change flags)
  | none => refuse

/-- Whether a text looks ahead or behind. -/
def looksAround (s : List Char) : Bool :=
  [['?', '='], ['?', '!'], ['?', '<', '='], ['?', '<', '!']].any (·.isPrefixOf s)

/-- Takes the opening of a group off the text, from its parenthesis on. -/
def readGroupOpening (verbose : Bool) : Scan Opening := do
  step verbose
  let s ← (fun s => .done s s : Scan (List Char))
  if looksAround s then refuse
  else if ['?', 'P', '<'].isPrefixOf s then
    skipMany 3
    readGroupName
  else if ['?', '<'].isPrefixOf s then
    skipMany 2
    readGroupName
  else if ['?'].isPrefixOf s then
    skip
    readFlags
  else pure (.group .capture)

/-! ## Patterns -/

/-- The pattern of some parts one after the other, given with the last one first. -/
def sequenceOf (parts : List Tree) : Tree :=
  match parts with
  | [] => .empty
  | [t] => t
  | ts => .sequence ts.reverse

/-- The pattern of some branches. -/
def alternationOf (branches : List Tree) : Tree :=
  match branches with
  | [t] => t
  | ts => .alternation ts

/-- Takes a part that is no group and no class off the text. -/
def readPrimitive (verbose : Bool) (c : Char) : Scan Tree :=
  if c = '\\' then readEscape verbose
  else do
    skip
    pure (if c = '.' then .dot
      else if c = '^' then .assertion .lineStart
      else if c = '$' then .assertion .lineEnd
      else .literal ⟨c, false⟩)

/-- Whether a character is the sign of a repetition. -/
def isRepetition (c : Char) : Bool := c == '?' || c == '*' || c == '+' || c == '\x7b'

mutual

/-- Takes branches off the text, nested no deeper than `n`, up to a closing parenthesis or the end, and
gives the flag of verbose patterns as it is there. -/
def readBranches : Nat → Bool → Scan (List Tree × Bool)
  | 0, _ => refuse
  | n + 1, verbose => do
    let (first, verbose) ← readParts n verbose []
    if (← peek) = some '|' then
      skip
      let (rest, verbose) ← readBranches n verbose
      pure (first :: rest, verbose)
    else pure ([first], verbose)

/-- Takes the parts of one branch off the text, from those that have been read, the last one first. -/
def readParts : Nat → Bool → List Tree → Scan (Tree × Bool)
  | 0, _, _ => refuse
  | n + 1, verbose, parts => do
    skipSpace verbose
    match ← peek with
    | none => pure (sequenceOf parts, verbose)
    | some c =>
      if c = '|' ∨ c = ')' then pure (sequenceOf parts, verbose)
      else if c = '(' then
        match ← readGroupOpening verbose with
        | .change flags => readParts n (applyVerbose flags verbose) (.flags flags :: parts)
        | .group kind =>
          let inside := match kind with
            | .scoped flags => applyVerbose flags verbose
            | _ => verbose
          let (branches, _) ← readBranches n inside
          if (← peek) = some ')' then
            skip
            readParts n verbose (.group kind (alternationOf branches) :: parts)
          else refuse
      else if c = '[' then
        let (negated, content) ← (fun s => readBrackets verbose (2 * s.length + 2) s : Scan _)
        readParts n verbose (.brackets negated content :: parts)
      else if isRepetition c then
        match parts with
        | [] => refuse
        | body :: parts =>
          if isRepeatable body then
            let (least, most) ← readRepetition verbose c
            readParts n verbose (.repetition body least most :: parts)
          else refuse
      else
        let part ← readPrimitive verbose c
        readParts n verbose (part :: parts)

end

/-- The pattern that a text holds: all of it is read, and no two of its groups have the same name. Every
group and every branch takes a character, so the length of the text bounds how deep they are. -/
def Tree.read? (text : List Char) : Option Tree :=
  match readBranches (2 * text.length + 2) false text with
  | .done (branches, _) [] =>
    let tree := alternationOf branches
    if tree.names.eraseDups.length = tree.names.length then some tree else none
  | _ => none

end PathQuery.Pattern
