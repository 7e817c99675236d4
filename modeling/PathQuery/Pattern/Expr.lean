/-!
# What a pattern matches

With the flags worked out, a pattern is a regular expression over sets of characters and conditions on
places. It matches stretches of a text: a set matches one character, a condition matches the empty
stretch at a place where it holds, and the rest is sequence, choice and repetition.

`Spans` says which stretches those are. `Expr.ends` works them out: from a list of places it gets the
places where a match that starts at one of them can end. A repetition without an upper bound stops as
soon as it reaches no new place, which happens at the latest after as many rounds as there are places.

## Main definitions

* `CharSet`, `Look`, `Expr` — expressions.
* `Spans` — the stretches that an expression matches.
* `Expr.ends` — where matches can end.
* `Expr.search` — whether there is a match anywhere.
-/

namespace PathQuery.Pattern

/-- A set of characters, by their code points. -/
abbrev CharSet := Nat → Bool

/-- Conditions on a place, with everything that flags decide about them. -/
inductive Look where
  | textStart | textEnd
  | lineStart | lineEnd
  /-- The same, where a carriage return, a line feed or both of them end a line. -/
  | lineStartCrlf | lineEndCrlf
  | boundary (word : CharSet)
  | noBoundary (word : CharSet)
  | start (word : CharSet)
  | stop (word : CharSet)
  | startHalf (word : CharSet)
  | stopHalf (word : CharSet)

/-- Whether a condition holds between two characters, either of which may be missing at an end of the
text. -/
def Look.holds (before after : Option Char) : Look → Bool
  | textStart => before.isNone
  | textEnd => after.isNone
  | lineStart => before.all (· == '\n')
  | lineEnd => after.all (· == '\n')
  | lineStartCrlf =>
    before.all fun c => c == '\n' || (c == '\r' && after != some '\n')
  | lineEndCrlf =>
    after.all fun c => c == '\r' || (c == '\n' && before != some '\r')
  | boundary word => before.any (word ·.toNat) != after.any (word ·.toNat)
  | noBoundary word => before.any (word ·.toNat) == after.any (word ·.toNat)
  | start word => !before.any (word ·.toNat) && after.any (word ·.toNat)
  | stop word => before.any (word ·.toNat) && !after.any (word ·.toNat)
  | startHalf word => !before.any (word ·.toNat)
  | stopHalf word => !after.any (word ·.toNat)

/-- Regular expressions. -/
inductive Expr where
  | empty
  | set (s : CharSet)
  | look (kind : Look)
  | seq (a b : Expr)
  | alt (a b : Expr)
  | repetition (body : Expr) (least : Nat) (most : Option Nat)

/-! ## Stretches of a text -/

/-- The character in front of a place. -/
def before (text : Array Char) (i : Nat) : Option Char := if i = 0 then none else text[i - 1]?

/-- Whether a condition holds at a place. -/
def Look.holdsAt (text : Array Char) (i : Nat) (l : Look) : Bool := l.holds (before text i) text[i]?

/-- `Spans text e i j`: the expression `e` matches the characters of the text from place `i` up to
place `j`. -/
inductive Spans (text : Array Char) : Expr → Nat → Nat → Prop where
  | empty (i : Nat) : Spans text .empty i i
  | set {s : CharSet} {i : Nat} {c : Char} (hc : text[i]? = some c) (hs : s c.toNat = true) :
      Spans text (.set s) i (i + 1)
  | look {l : Look} {i : Nat} (h : l.holdsAt text i = true) : Spans text (.look l) i i
  | seq {a b : Expr} {i j k : Nat} (ha : Spans text a i j) (hb : Spans text b j k) :
      Spans text (.seq a b) i k
  | left {a b : Expr} {i j : Nat} (h : Spans text a i j) : Spans text (.alt a b) i j
  | right {a b : Expr} {i j : Nat} (h : Spans text b i j) : Spans text (.alt a b) i j
  | none {e : Expr} {most : Option Nat} (i : Nat) : Spans text (.repetition e 0 most) i i
  | more {e : Expr} {least : Nat} {most : Option Nat} {i j k : Nat} (he : Spans text e i j)
      (hr : Spans text (.repetition e (least - 1) (most.map (· - 1))) j k)
      (room : most ≠ some 0) : Spans text (.repetition e least most) i k

/-! ## Where matches end -/

/-- The places of two lists, each place once. -/
def merge (ps qs : List Nat) : List Nat := ps ++ (qs.filter (!ps.contains ·)).eraseDups

/-- The places that are reached from `frontier` in at most `n` rounds of `f`, and those reached
before. -/
def reach (f : List Nat → List Nat) : Nat → List Nat → List Nat → List Nat
  | 0, reached, _ => reached
  | n + 1, reached, frontier =>
    match ((f frontier).filter (!reached.contains ·)).eraseDups with
    | [] => reached
    | new => reach f n (reached ++ new) new

/-- The places that are reached in exactly `n` rounds of `f`. -/
def rounds (f : List Nat → List Nat) : Nat → List Nat → List Nat
  | 0, ps => ps
  | n + 1, ps =>
    match ps with
    | [] => []
    | ps => rounds f n (f ps)

/-- The places where a match that starts at one of some places can end. -/
def Expr.ends (text : Array Char) : Expr → List Nat → List Nat
  | .empty, ps => ps
  | .set s, ps => ps.filterMap fun i =>
    match text[i]? with
    | some c => if s c.toNat then some (i + 1) else none
    | none => none
  | .look l, ps => ps.filter (l.holdsAt text)
  | .seq a b, ps => b.ends text (a.ends text ps)
  | .alt a b, ps => merge (a.ends text ps) (b.ends text ps)
  | .repetition body least most, ps =>
    let start := rounds (body.ends text) least ps
    let extra := match most with
      | some most => most - least
      | none => text.size + 1
    reach (body.ends text) extra start start

/-- Whether an expression matches a stretch of a text. -/
def Expr.search (e : Expr) (text : Array Char) : Bool :=
  !(e.ends text (List.range (text.size + 1))).isEmpty

end PathQuery.Pattern
