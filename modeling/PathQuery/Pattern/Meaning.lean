import PathQuery.Pattern.Tree
import PathQuery.Pattern.Expr
import PathQuery.Unicode.Property

/-!
# From patterns to expressions

A pattern is read from left to right with the flags that are in force. A change of flags lasts to the end
of the group that it stands in, across branches too. Where case is ignored, a set of characters is closed
under case before it is negated and before it takes part in a set operation.

Patterns are about characters. With the `unicode` flag off, classes, shorthands and word boundaries mean
ASCII, and whatever would match a part of a character that is not ASCII is refused. What they mean in
Unicode is left to a dialect, since it changes from one version of Unicode to the next.

## Main definitions

* `Dialect` — what the syntax of patterns leaves open.
* `Flags` — the flags in force.
* `shorthandSet`, `asciiSet` — the sets that have a name.
* `contentSet?` — the set between brackets.
* `Tree.expr?` — the expression of a pattern.
-/

namespace PathQuery.Pattern

/-- What the syntax of patterns leaves open: which characters there are in the classes and properties of
Unicode, which of them differ in case alone, and how large a pattern may be. -/
structure Dialect where
  /-- The set of a class with a letter of its own. -/
  shorthand : Shorthand → CharSet
  /-- The set of a property, if there is a property of that name. -/
  property? : PropertyQuery → Option CharSet
  /-- The code points that differ from one in case alone, and that one. -/
  caseVariants : Nat → List Nat
  /-- Whether a pattern is within the limits. -/
  fits : Tree → Bool

/-- The flags in force that decide what a pattern matches. -/
structure Flags where
  ignoreCase : Bool
  multiLine : Bool
  dotAll : Bool
  unicode : Bool
  crlf : Bool
deriving DecidableEq, Repr

namespace Flags

/-- The flags at the start of a pattern. -/
def initial : Flags := ⟨false, false, false, true, false⟩

/-- Switches one flag. Which matches come first does not matter for whether there is one, and verbosity
only matters while reading. -/
def switch (f : Flags) (flag : Flag) (on : Bool) : Flags :=
  match flag with
  | .ignoreCase => { f with ignoreCase := on }
  | .multiLine => { f with multiLine := on }
  | .dotAll => { f with dotAll := on }
  | .unicode => { f with unicode := on }
  | .crlf => { f with crlf := on }
  | .swapGreed => f
  | .verbose => f

/-- Makes changes of flags. -/
def apply (f : Flags) (changes : FlagChanges) : Flags := changes.foldl (fun f c => f.switch c.1 c.2) f

end Flags

/-! ## Sets of characters -/

/-- The characters from one code point to another. -/
def between (lo hi : Nat) : CharSet := fun n => lo ≤ n && n ≤ hi

/-- Letters, digits and the underscore in ASCII. -/
def asciiWord : CharSet := fun n => Unicode.asciiLetter n || Unicode.asciiDigit n || n = 0x5F

/-- Blanks and line ends in ASCII. -/
def asciiSpace : CharSet := fun n => between 9 13 n || n = 0x20

/-- The set that an ASCII class stands for. -/
def asciiSet : AsciiClass → CharSet
  | .alnum => fun n => Unicode.asciiLetter n || Unicode.asciiDigit n
  | .alpha => Unicode.asciiLetter
  | .ascii => between 0 0x7F
  | .blank => fun n => n = 9 || n = 0x20
  | .cntrl => fun n => between 0 0x1F n || n = 0x7F
  | .digit => Unicode.asciiDigit
  | .graph => between 0x21 0x7E
  | .lower => between 0x61 0x7A
  | .print => between 0x20 0x7E
  | .punct => fun n =>
    between 0x21 0x2F n || between 0x3A 0x40 n || between 0x5B 0x60 n || between 0x7B 0x7E n
  | .space => asciiSpace
  | .upper => between 0x41 0x5A
  | .word => asciiWord
  | .xdigit => fun n => Unicode.asciiDigit n || between 0x41 0x46 n || between 0x61 0x66 n

/-- The other case of an ASCII letter. -/
def swapAsciiCase (n : Nat) : Nat :=
  if 0x41 ≤ n ∧ n ≤ 0x5A then n + 0x20 else if 0x61 ≤ n ∧ n ≤ 0x7A then n - 0x20 else n

/-- A set or its complement. Without the `unicode` flag a complement has parts of characters in it. -/
def Flags.negate? (f : Flags) (negated : Bool) (s : CharSet) : Option CharSet :=
  if !negated then some s
  else if f.unicode then some fun n => !s n
  else none

/-- The code point of a literal in brackets, which must be ASCII without the `unicode` flag. -/
def classPoint? (f : Flags) (c : Literal) : Option Nat :=
  if f.unicode || c.char.toNat < 0x80 then some c.char.toNat else none

/-- The result of an operation on two sets. -/
def SetOp.apply (op : SetOp) (s t : CharSet) : CharSet :=
  match op with
  | .intersection => fun n => s n && t n
  | .difference => fun n => s n && !t n
  | .symmetricDifference => fun n => s n != t n

section Sets

variable (d : Dialect)

/-- The set that a shorthand stands for. -/
def shorthandSet (unicode : Bool) (kind : Shorthand) : CharSet :=
  if unicode then d.shorthand kind
  else match kind with
    | .digit => Unicode.asciiDigit
    | .space => asciiSpace
    | .word => asciiWord

/-- A set closed under case, where case is ignored. -/
def Flags.close (f : Flags) (s : CharSet) : CharSet :=
  if !f.ignoreCase then s
  else if f.unicode then fun n => (d.caseVariants n).any s
  else fun n => s n || s (swapAsciiCase n)

/-- The set of a property or of its opposite, closed under case. -/
def propertySet? (f : Flags) (query : PropertyQuery) (negated : Bool) : Option CharSet :=
  if f.unicode then (d.property? query).bind fun s => f.negate? negated (f.close d s) else none

mutual

/-- The set of an element of a class. -/
def itemSet? (f : Flags) : ClassItem → Option CharSet
  | .literal c => (classPoint? f c).map fun k n => n = k
  | .range first last =>
    match classPoint? f first, classPoint? f last with
    | some lo, some hi => some (between lo hi)
    | _, _ => none
  | .ascii kind negated => f.negate? negated (f.close d (asciiSet kind))
  | .shorthand kind negated => f.negate? negated (shorthandSet d f.unicode kind)
  | .property query negated => propertySet? d f query negated
  | .brackets negated content => (contentSet? f content).bind fun s => f.negate? negated (f.close d s)

/-- The set of all elements of a class. -/
def itemsSet? (f : Flags) : List ClassItem → Option CharSet
  | [] => some fun _ => false
  | item :: rest =>
    match itemSet? f item, itemsSet? f rest with
    | some s, some t => some fun n => s n || t n
    | _, _ => none

/-- The set of what stands between brackets. -/
def contentSet? (f : Flags) : ClassSet → Option CharSet
  | .union items => itemsSet? f items
  | .op kind left right =>
    match contentSet? f left, contentSet? f right with
    | some s, some t => some (kind.apply (f.close d s) (f.close d t))
    | _, _ => none

end

/-! ## Expressions -/

/-- The set that a point matches. -/
def dotSet? (f : Flags) : Option CharSet :=
  if !f.unicode then none
  else if f.dotAll then some fun _ => true
  else if f.crlf then some fun n => n != 10 && n != 13
  else some fun n => n != 10

/-- The condition that an assertion stands for. -/
def lookOf (f : Flags) (a : Assertion) : Look :=
  let word := shorthandSet d f.unicode .word
  match a with
  | .lineStart =>
    if !f.multiLine then .textStart else if f.crlf then .lineStartCrlf else .lineStart
  | .lineEnd => if !f.multiLine then .textEnd else if f.crlf then .lineEndCrlf else .lineEnd
  | .textStart => .textStart
  | .textEnd => .textEnd
  | .wordBoundary => .boundary word
  | .noWordBoundary => .noBoundary word
  | .wordStart => .start word
  | .wordEnd => .stop word
  | .wordStartHalf => .startHalf word
  | .wordEndHalf => .stopHalf word

/-- The set of a literal. A byte beyond ASCII is a part of a character without the `unicode` flag. -/
def literalSet? (f : Flags) (c : Literal) : Option CharSet :=
  if !f.unicode && c.isByte && 0x80 ≤ c.char.toNat then none
  else some (f.close d fun n => n = c.char.toNat)

mutual

/-- The expression of a pattern, and the flags in force behind it. -/
def Tree.expr? (f : Flags) : Tree → Option (Expr × Flags)
  | .empty => some (.empty, f)
  | .flags changes => some (.empty, f.apply changes)
  | .literal c => (literalSet? d f c).map fun s => (.set s, f)
  | .dot => (dotSet? f).map fun s => (.set s, f)
  | .assertion kind => some (.look (lookOf d f kind), f)
  | .shorthand kind negated =>
    (f.negate? negated (shorthandSet d f.unicode kind)).map fun s => (.set s, f)
  | .property query negated => (propertySet? d f query negated).map fun s => (.set s, f)
  | .brackets negated content =>
    ((contentSet? d f content).bind fun s => f.negate? negated (f.close d s)).map fun s => (.set s, f)
  | .repetition body least most =>
    (body.expr? f).map fun (e, _) => (.repetition e least most, f)
  | .group kind body =>
    let inside := match kind with
      | .scoped changes => f.apply changes
      | _ => f
    (body.expr? inside).map fun (e, _) => (e, f)
  | .alternation branches => branchesExpr? f branches
  | .sequence parts => partsExpr? f parts

/-- The expression of branches, and the flags in force behind the last of them. -/
def branchesExpr? (f : Flags) : List Tree → Option (Expr × Flags)
  | [] => some (.empty, f)
  | [t] => t.expr? f
  | t :: u :: rest =>
    match t.expr? f with
    | some (a, g) =>
      match branchesExpr? g (u :: rest) with
      | some (b, h) => some (.alt a b, h)
      | none => none
    | none => none

/-- The expression of parts one after the other, and the flags in force behind the last of them. -/
def partsExpr? (f : Flags) : List Tree → Option (Expr × Flags)
  | [] => some (.empty, f)
  | t :: rest =>
    match t.expr? f with
    | some (a, g) =>
      match partsExpr? g rest with
      | some (b, h) => some (.seq a b, h)
      | none => none
    | none => none

end

end Sets

end PathQuery.Pattern
