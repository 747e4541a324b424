import Transclude.Expansion.Run
import Transclude.Provider.Basic

/-!
# Expansion

A document is expanded by carrying out its calls from left to right. What a call produces is
expanded in its turn before it takes the call's place, so expansion goes on until only passages are
left. A limit bounds how deep calls may nest: a call that stands as deep as the limit allows is an
error. Without a limit, or with one that is greater than a given capacity, expansion that would nest
deeper than the capacity counts as endless.

Only a call that has a place can be carried out. An error that escapes from a call is located there
unless it is located already, and otherwise records the call.

## Main definitions

* `Expander` — a registry, and whether arguments are checked against declared signatures
* `Expander.dispatch` — carry out one call
* `Expander.expandCall` — carry out a call and expand what it produces
* `expandNodes` — expand the calls among nodes
* `Expander.expand` — expand a document
-/

namespace Transclude

/-- What calls are expanded with. -/
structure Expander where
  registry : Registry
  /-- Whether arguments are checked against the declared signatures. -/
  strict : Bool

/-- The passages of nodes of which every call is expanded by `expandCall`. -/
def expandNodes (expandCall : Call → Run (List Passage)) : List Node → Run (List Passage)
  | [] => pure []
  | .text passage :: rest => do
    let passages ← expandNodes expandCall rest
    return passage :: passages
  | .call call :: rest => do
    let produced ← expandCall call
    let passages ← expandNodes expandCall rest
    return produced ++ passages

namespace Expander

/-- Whether the check of signatures lets a call pass. -/
def admits (e : Expander) (descriptor : Descriptor) (call : Call) : Bool :=
  !e.strict || descriptor.accepts call.arguments

/-- Asks the provider registered at `index` to carry out a call. -/
def carryOut (index : Nat) (provider : Provider) (call : Call) : Run Document := do
  match call.span with
  | none => Run.fail (.aborted .unplacedNode)
  | some span =>
    Run.record (.expanding index call span.start)
    let production := provider.invoke call.function call.arguments call.origin.parent
    ⟨production.included.map .including, production.result⟩

/-- The document that a call produces. -/
def dispatch (e : Expander) (call : Call) : Run Document := do
  match e.registry.find call.function with
  | none => Run.failWith (.functionNotFound call.function)
  | some (index, provider, descriptor) =>
    Run.record (.dispatched call.function provider.name)
    -- The provider is not asked for a call that the check turns away.
    if e.admits descriptor call then carryOut index provider call
    else Run.failWith (.noSignature call.function)

/-- The passages that a call finally produces, when calls may nest `room` deep from here on; a
deeper one ends the run with `exhausted`. -/
def expandCall (e : Expander) (exhausted : Failure CompilationError) :
    (room : Nat) → Call → Run (List Passage)
  | 0, call => (Run.fail exhausted).mapError (·.escapeFrom call)
  | room + 1, call =>
    Run.mapError (·.escapeFrom call) do
      let produced ← e.dispatch call
      expandNodes (e.expandCall exhausted room) produced.nodes

/-- The passages of a document whose calls may nest `room` deep. -/
def expandWithin (e : Expander) (exhausted : Failure CompilationError) (room : Nat)
    (d : Document) : Run (List Passage) :=
  expandNodes (e.expandCall exhausted room) d.nodes

/-- The passages of a document. Calls nest at most `limit` deep, if there is a limit, and expansion
counts as endless if it nests deeper than `capacity`. -/
def expand (e : Expander) (limit : Option Int) (capacity : Nat) (d : Document) :
    Run (List Passage) :=
  match limit with
  | none => e.expandWithin (.aborted .endless) capacity d
  | some limit =>
    if limit ≤ capacity then
      e.expandWithin (.reported (.ofFault (.depthExceeded limit))) limit.toNat d
    else e.expandWithin (.aborted .endless) capacity d

end Expander

/-- The nesting that expansion without a limit has room for. -/
def defaultCapacity : Nat := 320

end Transclude
