import PathQuery.Comparison
import PathQuery.Function
import PathQuery.Path.Basic
import PathQuery.Selection

/-!
# Compiling a path

A path that is run on many documents is compiled once: every selector, filter and term becomes a function
of the document and of the node or candidate, which holds the functions of its parts. What does not
depend on the document is settled while compiling:

* a slice with a step of zero selects nothing;
* a call of an unknown function gives nothing, and its arguments are not compiled at all;
* the literal pattern of `match` or `search` is read once, and if it is no pattern the call gives false
  and its subject is never looked at;
* a literal on one side of a comparison is no longer worked out for every candidate.

Compiling keeps a log of its own, of calls that cannot do what they seem to ask for.

## Main definitions

* `SelectorRun`, `FilterRun`, `TermRun` — what the parts of a path are compiled to.
* `Selector.compile`, `Filter.compile`, `Term.compile` — compiling them.
* `CompiledPath`, `Path.compile`, `CompiledPath.run` — whole paths.
-/

namespace PathQuery

open Logged

/-- A compiled selector: what it picks, from the document, whether the node is the one that the query
starts at, and the node. -/
abbrev SelectorRun := Json → Bool → Node → Logged (List Node)

/-- A compiled filter: whether it holds, from the document and the candidate. -/
abbrev FilterRun := Json → Json → Logged Bool

/-- A compiled term or argument: what it stands for, from the document and the candidate. -/
abbrev TermRun := Json → Json → Logged Operand

/-! ## Running compiled segments -/

/-- What the compiled selectors of a segment pick at some nodes, one selector after the other. -/
def runSegment (document : Json) (atStart : Bool) : List SelectorRun → List Node → Logged (List Node)
  | [], _ => pure []
  | s :: rest, nodes => do
    let picked ← collect (s document atStart) nodes
    let more ← runSegment document atStart rest nodes
    pure (picked ++ more)

/-- The nodes that compiled segments lead to from some nodes. -/
def runSegments (document : Json) (atStart : Bool) :
    List (List SelectorRun) → List Node → Logged (List Node)
  | [], nodes => pure nodes
  | s :: rest, nodes => do
    let next ← runSegment document atStart s nodes
    runSegments document false rest next

/-- The values that compiled segments lead to from a value, which is a start of its own. -/
def runValues (segments : List (List SelectorRun)) (document start : Json) : Logged (List Json) :=
  (·.map (·.value)) <$> runSegments document false segments [.root start]

/-- Works out compiled arguments, in order. -/
def runArguments (document current : Json) : List TermRun → Logged (List Operand)
  | [] => pure []
  | a :: rest => do
    let x ← a document current
    let xs ← runArguments document current rest
    pure (x :: xs)

/-- The literal pattern of a call with two arguments. -/
def literalPattern? : List Argument → Option String
  | [_, .term (.literal (.string pattern))] => some pattern
  | _ => none

section Compiling

variable [Engine]

/-- Compiles a call from its compiled arguments, which are not asked for if the function is unknown. -/
def compileCall (name : String) (args : List Argument) (compiled : Logged (List TermRun)) :
    Logged TermRun :=
  match Function.named? name with
  | none => do
    record (.compiledUnknown name)
    pure fun _ _ => pure .nothing
  | some f => do
    if args.length ≠ f.arity then record (.compiledArity f.name f.arity args.length)
    let runs ← compiled
    match f.extent?, literalPattern? args, runs with
    | some extent, some text, subject :: _ =>
      match ← readPattern extent text with
      | some p =>
        pure fun document current =>
          (fun x => .owned (.bool (testPattern x p))) <$> subject document current
      | none => do
        record (.compiledBadPattern text f.name)
        pure fun _ _ => pure (.owned (.bool false))
    | _, _, _ =>
      pure fun document current => do
        let xs ← runArguments document current runs
        f.apply xs

/-! ## Compiling -/

mutual

/-- Compiles a selector. -/
def Selector.compile : Selector → Logged SelectorRun
  | .name key => pure fun _ _ n => pure (n.named key)
  | .index i => pure fun _ _ n => pure (n.indexed i)
  | .slice start stop step =>
    pure (if step = some 0 then fun _ _ _ => pure []
      else fun _ _ n => pure (n.sliced start stop step))
  | .wildcard => pure fun _ _ n => pure n.children
  | .filter test => do
    let run ← Filter.compile test
    pure fun document atStart n => select (fun c => run document c.value) (n.candidates atStart)
  | .descent inner => do
    let run ← Selector.compile inner
    pure fun document _ n => collect (run document false) n.subtree

/-- Compiles the selectors of a segment. -/
def compileSegment : List Selector → Logged (List SelectorRun)
  | [] => pure []
  | s :: rest => do
    let run ← Selector.compile s
    let runs ← compileSegment rest
    pure (run :: runs)

/-- Compiles segments. -/
def compileSegments : List (List Selector) → Logged (List (List SelectorRun))
  | [] => pure []
  | s :: rest => do
    let run ← compileSegment s
    let runs ← compileSegments rest
    pure (run :: runs)

/-- Compiles a filter. -/
def Filter.compile : Filter → Logged FilterRun
  | .comparison op left (.literal value) => do
    let run ← Term.compile left
    pure fun document current => (op.holds · (.node value)) <$> run document current
  | .comparison op (.literal value) right => do
    let run ← Term.compile right
    pure fun document current => (op.holds (.node value) ·) <$> run document current
  | .comparison op left right => do
    let runLeft ← Term.compile left
    let runRight ← Term.compile right
    pure fun document current => do
      let a ← runLeft document current
      let b ← runRight document current
      pure (op.holds a b)
  | .logic op left right => do
    let runLeft ← Filter.compile left
    let runRight ← Filter.compile right
    pure fun document current => do
      let holds ← runLeft document current
      match op with
      | .and => if holds then runRight document current else pure false
      | .or => if holds then pure true else runRight document current
  | .existence anchor segments => do
    let runs ← compileSegments segments
    pure fun document current =>
      (!·.isEmpty) <$> runValues runs document (anchor.value document current)
  | .call function args => do
    let run ← compileCall function args (compileArguments args)
    pure fun document current => Operand.truthy <$> run document current
  | .group inner => Filter.compile inner
  | .negation inner => do
    let run ← Filter.compile inner
    pure fun document current => (!·) <$> run document current

/-- Compiles a term. -/
def Term.compile : Term → Logged TermRun
  | .current => pure fun _ current => pure (.node current)
  | .root => pure fun document _ => pure (.node document)
  | .literal value => pure fun _ _ => pure (.owned value)
  | .path anchor segments => do
    let runs ← compileSegments segments
    pure fun document current =>
      .ofNodes <$> runValues runs document (anchor.value document current)
  | .call function args => compileCall function args (compileArguments args)

/-- Compiles an argument. -/
def Argument.compile : Argument → Logged TermRun
  | .term t => Term.compile t
  | .filter f => do
    let run ← Filter.compile f
    pure fun document current => (.owned ∘ .bool) <$> run document current
  | .path segments => do
    let runs ← compileSegments segments
    pure fun document current => .ofNodes <$> runValues runs document current

/-- Compiles arguments, in order. -/
def compileArguments : List Argument → Logged (List TermRun)
  | [] => pure []
  | a :: rest => do
    let run ← Argument.compile a
    let runs ← compileArguments rest
    pure (run :: runs)

end

end Compiling

/-- A compiled path: what its selectors are compiled to, segment by segment. -/
structure CompiledPath where
  segments : List (List SelectorRun)

/-- Compiles a path. -/
def Path.compile [Engine] (p : Path) : Logged CompiledPath := do
  record (.compiling p.segments.length)
  CompiledPath.mk <$> compileSegments p.segments

namespace CompiledPath

/-- The nodes that a compiled path selects from a document, in order, and the log of finding them. -/
def run (p : CompiledPath) (document : Json) : Logged (List Node) :=
  runSegments document true p.segments [.root document]

/-- The values that a compiled path selects from a document, in order. -/
def select (p : CompiledPath) (document : Json) : List Json := (p.run document).value.map (·.value)

/-- A compiled path in a few words: how many segments it has. -/
def summary (p : CompiledPath) : String :=
  "JsonPathCompiledFn \x7b segments: " ++ toString p.segments.length ++ " \x7d"

end CompiledPath

end PathQuery
