import PathQuery.Comparison
import PathQuery.Function
import PathQuery.Path.Basic
import PathQuery.Selection

/-!
# Running a query

A query starts with the document as its one node, and each segment turns the nodes reached so far into
the next ones: its selectors are applied one after the other, each to all nodes in order. A filter tests
its candidates one by one. Connectives look at their right side only if the left one leaves the outcome
open, and the arguments of a call are worked out before the call.

A path inside a filter starts at a node of its own, the candidate or the document, which is a start again.
Patterns are left to an engine, which is the same for all parts of a query.

## Main definitions

* `evalSegments`, `Selector.eval`, `Filter.eval`, `Term.eval` — the parts of a query.
* `Path.evaluate` — a query on a document, with its log.
* `Path.select` — the values that a query selects.
-/

namespace PathQuery

open Logged

variable [Engine]

mutual

/-- What a selector picks at a node of `document`. `atStart` is set where the node is the one that the
query starts at. -/
def Selector.eval (document : Json) (atStart : Bool) : Selector → Node → Logged (List Node)
  | .name key, n => pure (n.named key)
  | .index i, n => pure (n.indexed i)
  | .slice start stop step, n => pure (n.sliced start stop step)
  | .wildcard, n => pure n.children
  | .filter test, n => select (fun c => Filter.eval document test c.value) (n.candidates atStart)
  | .descent inner, n => collect (fun d => Selector.eval document false inner d) n.subtree

/-- What the selectors of a segment pick at some nodes, one selector after the other. -/
def evalSegment (document : Json) (atStart : Bool) : List Selector → List Node → Logged (List Node)
  | [], _ => pure []
  | s :: rest, nodes => do
    let picked ← collect (fun n => Selector.eval document atStart s n) nodes
    let more ← evalSegment document atStart rest nodes
    pure (picked ++ more)

/-- The nodes that segments lead to from some nodes. -/
def evalSegments (document : Json) (atStart : Bool) :
    List (List Selector) → List Node → Logged (List Node)
  | [], nodes => pure nodes
  | s :: rest, nodes => do
    let next ← evalSegment document atStart s nodes
    evalSegments document false rest next

/-- Whether a filter holds of a candidate. -/
def Filter.eval (document : Json) : Filter → Json → Logged Bool
  | .comparison op left right, current => do
    let a ← Term.eval document left current
    let b ← Term.eval document right current
    pure (op.holds a b)
  | .logic .and left right, current => do
    if ← Filter.eval document left current then Filter.eval document right current else pure false
  | .logic .or left right, current => do
    if ← Filter.eval document left current then pure true else Filter.eval document right current
  | .existence anchor segments, current => do
    let nodes ← evalSegments document false segments [.root (anchor.value document current)]
    pure !nodes.isEmpty
  | .call function args, current => do
    let xs ← evalArguments document args current
    Operand.truthy <$> callByName function xs
  | .group inner, current => Filter.eval document inner current
  | .negation inner, current => (!·) <$> Filter.eval document inner current

/-- What a term stands for at a candidate. -/
def Term.eval (document : Json) : Term → Json → Logged Operand
  | .current, current => pure (.node current)
  | .root, _ => pure (.node document)
  | .literal value, _ => pure (.owned value)
  | .path anchor segments, current => do
    let nodes ← evalSegments document false segments [.root (anchor.value document current)]
    pure (.ofNodes (nodes.map (·.value)))
  | .call function args, current => do
    let xs ← evalArguments document args current
    callByName function xs

/-- What an argument stands for at a candidate. -/
def Argument.eval (document : Json) : Argument → Json → Logged Operand
  | .term t, current => Term.eval document t current
  | .filter f, current => (.owned ∘ .bool) <$> Filter.eval document f current
  | .path segments, current => do
    let nodes ← evalSegments document false segments [.root current]
    pure (.ofNodes (nodes.map (·.value)))

/-- What some arguments stand for at a candidate, in order. -/
def evalArguments (document : Json) : List Argument → Json → Logged (List Operand)
  | [], _ => pure []
  | a :: rest, current => do
    let x ← Argument.eval document a current
    let xs ← evalArguments document rest current
    pure (x :: xs)

end

namespace Path

/-- The nodes that a query selects from a document, in order, and the log of finding them. -/
def evaluate (p : Path) (document : Json) : Logged (List Node) := do
  record (.evaluating p.segments.length)
  evalSegments document true p.segments [.root document]

/-- The values that a query selects from a document, in order. -/
def select (p : Path) (document : Json) : List Json := (p.evaluate document).value.map (·.value)

end Path

end PathQuery
