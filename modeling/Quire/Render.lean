import Quire.Document
import Quire.Event
import Quire.Resolution

set_option autoImplicit false

/-!
Rendering: a render tree is expanded depth first until only text and host elements are left. A host
element takes the next id before its children are expanded.

Every level of nesting and every invoked component takes one unit from a budget, so that rendering
ends also when a component renders itself. What happened on the way is kept also when rendering
fails: the log shows it, and the handles of the host elements that came into being stay attached.
-/

namespace Quire

namespace Overrides

def steps : Overrides → List Step
  | .map registry => if registry.isEmpty then [] else [.merged registry.size]
  | .compute _ => []

end Overrides

/-- Expands a tree in the view of a registry. When the budget runs out, the error reports
`limit`. -/
def Node.expand (library : Library) (limit : Nat) :
    Nat → Registry → Node → Pass (List (Tree Nat))
  | 0, _, _ => Expansion.fail (.depthExceeded limit)
  | budget + 1, registry, node =>
      match node with
      | .empty => pure []
      | .text content => pure [.text content]
      | .number value => pure [.text value.text]
      | .fragment children => Pass.concatMap (expand library limit budget registry) children
      | .provider overrides children => do
          Expansion.record overrides.steps
          Pass.concatMap (expand library limit budget (overrides.view registry)) children
      | .element reference props children handle => do
          let rendered ← Element.dispatch library registry ⟨reference, props, children, handle⟩
          expand library limit budget registry rendered
      | .host tag attributes children handle =>
          if Tag.isValid tag then do
            let id ← Pass.takeId
            Expansion.record [.materialized tag id handle]
            let inner ← Pass.concatMap (expand library limit budget registry) children
            return [.element id tag attributes inner]
          else Expansion.fail (.invalidTag tag)

def Handles := Handle → Option Nat

namespace Handles

def empty : Handles := fun _ => none

def attach (handles : Handles) (handle : Option Handle) (id : Nat) : Handles :=
  fun other => if handle = some other then some id else handles other

/-- The handles after a step: a host element that comes into being takes the handle it carries. -/
def after (handles : Handles) : Step → Handles
  | .materialized _ id handle => handles.attach handle id
  | .merged _ | .invoked _ => handles

def follow (handles : Handles) (steps : List Step) : Handles :=
  steps.foldl after handles

end Handles

def Step.event (library : Library) : Step → Event
  | .merged count => .mergingOverrides count
  | .invoked component => .invokingComponent (library.nameOf component)
  | .materialized tag id _ => .materializing tag id

def defaultLimit : Nat := 256

def maximalLimit : Nat := 1024

def effectiveLimit (limit : Nat) : Nat := min limit maximalLimit

structure Rendering where
  result : Except RenderError Document
  /-- What was done, up to the first error if there was one. -/
  steps : List Step
  events : List Event

def Node.render (library : Library) (limit : Nat) (registry : Registry) (node : Node) :
    Rendering :=
  let limit := effectiveLimit limit
  let expansion := (node.expand library limit (limit + 1) registry).run 0
  let events := expansion.steps.map (Step.event library)
  match expansion.result with
  | .ok (document, next) =>
      { result := .ok document
        steps := expansion.steps
        events := events ++ [.passFinished next] }
  | .error error => { result := .error error, steps := expansion.steps, events := events }

def Rendering.handles (rendering : Rendering) (before : Handles) : Handles :=
  before.follow rendering.steps

end Quire
