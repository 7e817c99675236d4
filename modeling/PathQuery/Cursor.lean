import PathQuery.Reader

/-!
# Cursors

A reader is handed the characters that are left. A cursor is handed the whole text and a position in it,
a number of bytes, and looks at the text by slices from one position to another. A slice is there only if
both positions lie in the text, in order, and between two characters; to take any other one breaks the
run off. A run that breaks off has no outcome. An outcome is a value or the cause of a failure, and with
either the position that was reached.

Loops go on for as long as their turns ask for it. A bound comes with the text, and a loop that would take
more turns has no outcome either. It is a bound on the run and not a part of what is read: a run that ends
does so under every bound that is large enough, and in the same way.

## Main definitions

* `splitBytes?`, `slice?` — the parts of a text between positions.
* `Cursor` — functions from a text and a position to an outcome.
* `Cursor.rest`, `Cursor.since` — slices, which break the run off if they are not there.
* `Cursor.get?` — a slice that may not be there.
* `Cursor.taken` — the text that a run passes over.
* `Turn`, `Cursor.loop` — loops.
-/

namespace PathQuery

/-- The first `n` bytes of a text and what follows them, if a character ends there. -/
def splitBytes? : List Char → Nat → Option (List Char × List Char)
  | s, 0 => some ([], s)
  | [], _ + 1 => none
  | c :: s, n + 1 =>
    if c.utf8Size ≤ n + 1 then
      (splitBytes? s (n + 1 - c.utf8Size)).map fun parts => (c :: parts.1, parts.2)
    else none

/-- The text between two positions. -/
def slice? (text : List Char) (start stop : Nat) : Option (List Char) :=
  if start ≤ stop then do
    let (_, behind) ← splitBytes? text start
    let (between, _) ← splitBytes? behind (stop - start)
    pure between
  else none

/-- A text, and how many turns a loop may take and how many calls may be open inside each other. -/
structure Input where
  text : List Char
  bound : Nat

/-- A function of a text and a position in it: there is no outcome if it takes a slice that is not there,
or if it does not end within the bound. -/
abbrev Cursor (ε α : Type) : Type := ReaderT Input (ExceptT ε (StateT Nat Option)) α

/-- How the body of a loop ends: the loop takes another turn, or is left with a value. -/
inductive Turn (σ α : Type) where
  | again (state : σ)
  | leave (value : α)

namespace Cursor

variable {ε : Type}

/-! ## Positions and slices -/

/-- The position. -/
def position : Cursor ε Nat := fun _ pos => some (.ok pos, pos)

/-- Moves to a position, wherever it lies. -/
def moveTo (pos : Nat) : Cursor ε Unit := fun _ _ => some (.ok (), pos)

/-- Fails where it stands. -/
def fail {α : Type} (cause : ε) : Cursor ε α := fun _ pos => some (.error cause, pos)

/-- The text from `n` bytes behind the position on. -/
def restFrom (n : Nat) : Cursor ε (List Char) := fun input pos =>
  (splitBytes? input.text (pos + n)).map fun parts => (.ok parts.2, pos)

/-- The text from the position on. -/
def rest : Cursor ε (List Char) := restFrom 0

/-- The text from an earlier position up to the position. -/
def since (start : Nat) : Cursor ε (List Char) := fun input pos =>
  (slice? input.text start pos).map fun s => (.ok s, pos)

/-- The next `n` bytes, if there are as many and a character ends there. -/
def get? (n : Nat) : Cursor ε (Option (List Char)) := fun input pos =>
  some (.ok (slice? input.text pos (pos + n)), pos)

/-! ## Steps -/

/-- The next character. -/
def peek : Cursor ε (Option Char) := do
  return (← rest).head?

/-- Whether the text goes on with `word`. -/
def peekWord (word : List Char) : Cursor ε Bool := do
  return word.isPrefixOf (← rest)

/-- Passes over the next character, if there is one. -/
def advance : Cursor ε Unit := do
  match ← peek with
  | some c => moveTo ((← position) + c.utf8Size)
  | none => pure ()

/-- Passes over the next `n` characters. -/
def advanceBy : Nat → Cursor ε Unit
  | 0 => pure ()
  | n + 1 => do
    advance
    advanceBy n

/-- The text that a run passes over. -/
def taken (run : Cursor ε Unit) : Cursor ε (List Char) := do
  let start ← position
  run
  since start

/-! ## Loops -/

section Loops

variable {σ α : Type}

/-- The loop that takes no more than a number of turns. -/
def loopUpTo (turn : σ → Cursor ε (Turn σ α)) : Nat → σ → Cursor ε α
  | 0, _ => fun _ _ => none
  | n + 1, state => do
    match ← turn state with
    | .again next => loopUpTo turn n next
    | .leave a => pure a

/-- Takes turns until one leaves the loop. -/
def loop (turn : σ → Cursor ε (Turn σ α)) (state : σ) : Cursor ε α := fun input =>
  loopUpTo turn input.bound state input

end Loops

/-- Passes over the next character if it is one of a class. -/
def runTurn (p : Char → Bool) (_ : Unit) : Cursor ε (Turn Unit Unit) := do
  if (← peek).any p then
    advance
    pure (.again ())
  else pure (.leave ())

/-- Passes over the longest run of characters of a class. -/
def advanceWhile (p : Char → Bool) : Cursor ε Unit := loop (runTurn p) ()

end Cursor

end PathQuery
