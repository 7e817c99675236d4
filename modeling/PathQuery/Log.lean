import PathQuery.Engine
import PathQuery.Text.Visible

/-!
# The log

What an evaluation works out is recorded as a list of events, in the order in which they happen: they
show how often a function is called and which parts of a filter are never looked at. An event is data,
and its wording is a function of it.

A computation with a log is a value together with the events of getting it. Such computations form a
monad, in which the events of a sequence are those of its parts, one after the other.

## Main definitions

* `Event`, `Event.level`, `Event.message` — what is recorded.
* `Logged` — values with the events of getting them.
* `collect`, `select` — a computation for every element of a list.
-/

namespace PathQuery

/-- How much attention an event deserves. -/
inductive Level where
  | trace | debug
deriving DecidableEq, Repr

/-- What is recorded while paths are compiled and run. -/
inductive Event where
  /-- A query of some number of segments is evaluated. -/
  | evaluating (segments : Nat)
  /-- A path of some number of segments is compiled. -/
  | compiling (segments : Nat)
  /-- A function is called that there is none of. -/
  | unknownFunction (name : String)
  /-- A function is called with another number of arguments than it takes. -/
  | wrongArity (name : String) (expected got : Nat)
  /-- A text is used as a pattern, for some extent, that is none. -/
  | badPattern (extent : Extent) (pattern : String)
  /-- A call is compiled to a function that there is none of. -/
  | compiledUnknown (name : String)
  /-- A call is compiled that has another number of arguments than its function takes. -/
  | compiledArity (name : String) (expected got : Nat)
  /-- A call is compiled whose literal pattern is none. -/
  | compiledBadPattern (pattern name : String)
deriving DecidableEq, Repr

namespace Event

/-- The level of an event: what is decided once, when a path is compiled, is for debugging. -/
def level : Event → Level
  | compiledUnknown _ | compiledArity .. | compiledBadPattern .. => .debug
  | _ => .trace

/-- The number of arguments that a function takes and that it was given. -/
def arityMessage (name : String) (expected got : Nat) : String :=
  name ++ "() expects " ++ toString expected ++ " argument(s), got " ++ toString got

/-- The wording of an event. That of a bad pattern stops before the pattern and what is wrong with it. -/
def message : Event → String
  | evaluating n => "evaluating JSONPath with " ++ toString n ++ " segment(s)"
  | compiling n => "compiling JSONPath with " ++ toString n ++ " segment(s)"
  | unknownFunction name => "unknown JSONPath function " ++ name ++ "()"
  | wrongArity name expected got => arityMessage name expected got
  | badPattern .. => "invalid JSONPath regular expression"
  | compiledUnknown name => "unknown JSONPath function " ++ name ++ "(), compiled to Nothing"
  | compiledArity name expected got => arityMessage name expected got
  | compiledBadPattern pattern name =>
    "invalid pattern " ++ visible pattern ++ " in " ++ name ++ "(), compiled to false"

end Event

/-- The name of a level. -/
def Level.name : Level → String
  | trace => "trace"
  | debug => "debug"

/-- The text of an event with its level. -/
def Event.text (e : Event) : String := e.level.name ++ ": " ++ e.message

/-- A value and the events of getting it. -/
@[ext]
structure Logged (α : Type) where
  value : α
  log : List Event

namespace Logged

variable {α β : Type}

instance : Monad Logged where
  pure a := ⟨a, []⟩
  bind x f := ⟨(f x.value).value, x.log ++ (f x.value).log⟩

/-- Records an event. -/
def record (e : Event) : Logged Unit := ⟨(), [e]⟩

@[simp] theorem value_pure (a : α) : (pure a : Logged α).value = a := rfl

@[simp] theorem log_pure (a : α) : (pure a : Logged α).log = [] := rfl

@[simp] theorem value_bind (x : Logged α) (f : α → Logged β) :
    (x >>= f).value = (f x.value).value := rfl

@[simp] theorem log_bind (x : Logged α) (f : α → Logged β) :
    (x >>= f).log = x.log ++ (f x.value).log := rfl

@[simp] theorem value_map (f : α → β) (x : Logged α) : (f <$> x).value = f x.value := rfl

@[simp] theorem log_map (f : α → β) (x : Logged α) : (f <$> x).log = x.log := List.append_nil _

@[simp] theorem value_record (e : Event) : (record e).value = () := rfl

@[simp] theorem log_record (e : Event) : (record e).log = [e] := rfl

instance : LawfulMonad Logged :=
  LawfulMonad.mk' Logged (fun x => Logged.ext rfl (log_map id x)) (fun _ _ => rfl)
    (fun x f g => Logged.ext rfl (List.append_assoc x.log _ _))

/-- Computes a list for every element and puts the lists together, in order. -/
def collect (f : α → Logged (List β)) : List α → Logged (List β)
  | [] => pure []
  | a :: rest => do
    let bs ← f a
    let more ← collect f rest
    pure (bs ++ more)

@[simp] theorem value_collect (f : α → Logged (List β)) (as : List α) :
    (collect f as).value = as.flatMap fun a => (f a).value := by
  induction as with
  | nil => rfl
  | cons a rest ih => rw [List.flatMap_cons, ← ih]; rfl

/-- The elements that pass a test, in order. -/
def select (test : α → Logged Bool) : List α → Logged (List α)
  | [] => pure []
  | a :: rest => do
    let passes ← test a
    let more ← select test rest
    pure (if passes then a :: more else more)

@[simp] theorem value_select (test : α → Logged Bool) (as : List α) :
    (select test as).value = as.filter fun a => (test a).value := by
  induction as with
  | nil => rfl
  | cons a rest ih => rw [List.filter_cons, ← ih]; rfl

end Logged

end PathQuery
