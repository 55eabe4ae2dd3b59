import Quire.Proofs.Resolution

set_option autoImplicit false

/-!
Trees whose components are host elements or stand for their children.

`Throughout` says that a condition holds at every node of a tree, each seen with the registry in
view there. `Confined` uses it to say which components can be resolved in a tree. Where these are
plain, dispatching an element gives a host element or a fragment around the very children of the
element, so that a tree stays confined while it is expanded.
-/

namespace Quire

namespace Node

def children : Node → List Node
  | .empty | .text _ | .number _ => []
  | .element _ _ children _ | .host _ _ children _ => children
  | .fragment children | .provider _ children => children

def viewBelow (registry : Registry) : Node → Registry
  | .provider overrides _ => overrides.view registry
  | _ => registry

inductive Throughout (condition : Registry → Node → Prop) : Registry → Node → Prop where
  | intro {registry node} :
      condition registry node →
      (∀ child ∈ node.children, Throughout condition (node.viewBelow registry) child) →
      Throughout condition registry node

namespace Throughout

variable {condition : Registry → Node → Prop} {registry : Registry} {node : Node}

theorem here (throughout : node.Throughout condition registry) : condition registry node := by
  cases throughout with
  | intro here _ => exact here

theorem child (throughout : node.Throughout condition registry) :
    ∀ child ∈ node.children, child.Throughout condition (node.viewBelow registry) := by
  cases throughout with
  | intro _ below => exact below

theorem imp {other : Registry → Node → Prop} (throughout : node.Throughout condition registry)
    (weaker : ∀ {registry node}, condition registry node → other registry node) :
    node.Throughout other registry := by
  induction throughout with
  | intro here _ ih => exact .intro (weaker here) ih

end Throughout

/-- A node hides no name: if it changes the registry in view, it adds bindings to it. -/
def AddsBindings : Node → Prop
  | .provider (.compute _) _ => False
  | _ => True

theorem AddsBindings.knows_below {registry : Registry} {node : Node} {name : Name}
    (adds : node.AddsBindings) (known : registry.Knows name) :
    (node.viewBelow registry).Knows name := by
  cases node with
  | provider overrides children =>
      cases overrides with
      | compute view => cases adds
      | map added =>
          rw [viewBelow, Overrides.view_map]
          exact known.merged
  | empty | text | number | element | host | fragment => exact known

end Node

/-- The components that overrides bring into view are accepted. A computed registry counts as it is
computed from the view around it. -/
def Overrides.All (accept : Component → Prop) (outer : Registry) : Overrides → Prop
  | .map registry => registry.All accept
  | .compute view => (view outer).All accept

theorem Overrides.All.view {accept : Component → Prop} {outer : Registry} {overrides : Overrides}
    (brought : overrides.All accept outer) (all : outer.All accept) :
    (overrides.view outer).All accept := by
  cases overrides with
  | compute view => exact brought
  | map registry =>
      rw [Overrides.view_map]
      exact Registry.All.merged brought all

namespace Node

def Brings (accept : Component → Prop) (registry : Registry) : Node → Prop
  | .provider overrides _ => overrides.All accept registry
  | .element reference props _ _ =>
      (∀ component, reference = .direct component → accept component) ∧
        ∀ own, props.get? componentsKey = some (.components own) → own.All accept
  | _ => True

/-- Every component that can be resolved in a tree is accepted, built-in ones and plain host elements
apart. -/
structure Confined (accept : Component → Prop) (registry : Registry) (node : Node) : Prop where
  bound : registry.All accept
  brought : node.Throughout (Brings accept) registry

namespace Confined

variable {accept : Component → Prop} {registry : Registry} {node : Node}

theorem child (confined : node.Confined accept registry) :
    ∀ child ∈ node.children, child.Confined accept (node.viewBelow registry) := by
  intro child member
  refine ⟨?_, confined.brought.child child member⟩
  cases node with
  | provider overrides children =>
      have added : overrides.All accept registry := confined.brought.here
      exact added.view confined.bound
  | empty | text | number | element | host | fragment => exact confined.bound

theorem imp {other : Component → Prop} (confined : node.Confined accept registry)
    (weaker : ∀ {component}, accept component → other component) :
    node.Confined other registry := by
  refine ⟨confined.bound.imp weaker, confined.brought.imp ?_⟩
  intro registry node brought
  cases node with
  | provider overrides children =>
      cases overrides with
      | map added => exact Registry.All.imp brought weaker
      | compute view => exact Registry.All.imp brought weaker
  | element reference props children handle =>
      obtain ⟨direct, own⟩ := brought
      exact ⟨fun component carried => weaker (direct component carried),
        fun registry stored => (own registry stored).imp weaker⟩
  | empty | text | number | host | fragment => trivial

theorem of_child (bound : registry.All accept) (brings : node.Brings accept registry)
    (confined : ∀ child ∈ node.children, child.Confined accept (node.viewBelow registry)) :
    node.Confined accept registry :=
  ⟨bound, .intro brings fun child member => (confined child member).brought⟩

end Confined
end Node

def Implementation.Plain (condition : String → Props → Prop) : Implementation → Prop
  | .host tag attributes => condition tag attributes
  | .fragment => True
  | .custom .. => False

def Library.Plain (library : Library) (condition : String → Props → Prop) (component : Component) :
    Prop :=
  (library.implementation component).Plain condition

def Library.bold : Library where
  configured _ := .fragment
  custom _ := .host "b" (Bag.ofList [("title", .text "bold")])

theorem Builtin.plain_implementation {condition : String → Props → Prop}
    (bare : ∀ tag, Tag.isValid tag = true → condition tag ∅) {name : Name} (known : name ∈ names) :
    (Builtin.implementation name).Plain condition := by
  have valid : ∀ name ∈ names, name.text ≠ wrapper →
      Tag.isValid ((aliases.lookup name.text).getD name.text) = true := by decide
  unfold implementation
  split
  · trivial
  · exact bare _ (valid name known ‹_›)

namespace Library

variable {library : Library} {condition : String → Props → Prop}

theorem acceptsStandard_plain (bare : ∀ tag, Tag.isValid tag = true → condition tag ∅) :
    Component.AcceptsStandard (library.Plain condition) where
  builtin := by
    intro name component found
    unfold Builtin.find? at found
    split at found
    · cases found
      exact Builtin.plain_implementation bare (List.contains_iff_mem.mp ‹_›)
    · cases found
  plain := by
    intro name component found
    unfold Component.plain? at found
    split at found
    · cases found
      have lowercase : Tag.isLowercase name.text = true := ‹_›
      exact bare _ (Bool.and_eq_true_iff.mp lowercase).1
    · cases found

theorem Plain.implementation_cases {component : Component}
    (plain : library.Plain condition component) :
    library.implementation component = .fragment ∨
      ∃ tag attributes, condition tag attributes ∧
        library.implementation component = .host tag attributes := by
  unfold Library.Plain at plain
  cases implemented : library.implementation component with
  | host tag attributes =>
      rw [implemented] at plain
      exact .inr ⟨tag, attributes, plain, rfl⟩
  | fragment => exact .inl rfl
  | custom name run =>
      rw [implemented] at plain
      cases plain

theorem Plain.imp {other : String → Props → Prop} {component : Component}
    (plain : library.Plain condition component)
    (weaker : ∀ {tag attributes}, condition tag attributes → other tag attributes) :
    library.Plain other component := by
  unfold Library.Plain
  rcases plain.implementation_cases with implemented | ⟨tag, attributes, fits, implemented⟩
  · rw [implemented]
    trivial
  · rw [implemented]
    exact weaker fits

theorem invoke_of_fragment {component : Component}
    (implemented : library.implementation component = .fragment) (invocation : Invocation) :
    library.invoke component invocation = .ok (.fragment invocation.children) := by
  rw [Library.invoke, implemented]
  rfl

theorem invoke_of_host {component : Component} {tag : String} {attributes : Props}
    (implemented : library.implementation component = .host tag attributes)
    (invocation : Invocation) :
    library.invoke component invocation =
      .ok (.host tag (Bag.mergeWithSymbols [some attributes, some invocation.props])
        invocation.children invocation.handle) := by
  rw [Library.invoke, implemented]
  rfl

theorem Plain.invoke_cases {component : Component} (plain : library.Plain condition component)
    (invocation : Invocation) :
    library.invoke component invocation = .ok (.fragment invocation.children) ∨
      ∃ tag attributes, condition tag attributes ∧
        library.invoke component invocation =
          .ok (.host tag (Bag.mergeWithSymbols [some attributes, some invocation.props])
            invocation.children invocation.handle) := by
  rcases plain.implementation_cases with implemented | ⟨tag, attributes, fits, implemented⟩
  · exact .inl (invoke_of_fragment implemented invocation)
  · exact .inr ⟨tag, attributes, fits, invoke_of_host implemented invocation⟩

end Library

def Element.hosted (element : Element) (tag : String) (attributes : Props) : Node :=
  .host tag
    (Bag.mergeWithSymbols [some attributes, some (element.forwarded (.read element.props))])
    element.children element.handle

namespace Node.Confined

variable {library : Library} {condition : String → Props → Prop} {registry : Registry}
  {reference : Reference} {props : Props} {children : List Node} {handle : Option Handle}

theorem plain_component (bare : ∀ tag, Tag.isValid tag = true → condition tag ∅)
    (confined : (Node.element reference props children handle).Confined (library.Plain condition)
      registry) {component : Component}
    (found : Element.component ⟨reference, props, children, handle⟩ (.read props) registry =
      .ok component) :
    library.Plain condition component := by
  obtain ⟨direct, own⟩ := confined.brought.here
  refine Element.accepts_component (Library.acceptsStandard_plain bare) ?_ direct found
  rw [Hints.view_eq_merged]
  refine Registry.All.merged ?_ confined.bound
  cases hinted : (Hints.read props).components with
  | none => exact nofun
  | some registry =>
      obtain ⟨value, stored, held⟩ := Option.bind_eq_some_iff.mp hinted
      cases value <;> cases held
      exact own _ stored

/-- Dispatching an element of a confined tree only replaces the element itself. -/
theorem dispatch_cases (bare : ∀ tag, Tag.isValid tag = true → condition tag ∅)
    (confined : (Node.element reference props children handle).Confined (library.Plain condition)
      registry) {called : List Step} {rendered : Node}
    (dispatched : Element.dispatch library registry ⟨reference, props, children, handle⟩ =
      ⟨called, .ok rendered⟩) :
    rendered = .fragment children ∨
      ∃ tag attributes, condition tag attributes ∧
        rendered = Element.hosted ⟨reference, props, children, handle⟩ tag attributes := by
  obtain ⟨component, routable, found, invoked, -⟩ := Element.dispatch_eq_ok_iff.mp dispatched
  have plain := confined.plain_component bare found
  rcases plain.invoke_cases _ with opened | ⟨tag, attributes, fits, hosted⟩
  · rw [opened] at invoked
    cases invoked
    exact .inl rfl
  · rw [hosted] at invoked
    cases invoked
    exact .inr ⟨tag, attributes, fits, rfl⟩

theorem rendered (bare : ∀ tag, Tag.isValid tag = true → condition tag ∅)
    (confined : (Node.element reference props children handle).Confined (library.Plain condition)
      registry) {called : List Step} {rendered : Node}
    (dispatched : Element.dispatch library registry ⟨reference, props, children, handle⟩ =
      ⟨called, .ok rendered⟩) :
    rendered.Confined (library.Plain condition) registry := by
  rcases confined.dispatch_cases bare dispatched with rfl | ⟨tag, attributes, -, rfl⟩
  · exact .of_child confined.bound trivial confined.child
  · exact .of_child confined.bound trivial confined.child

end Node.Confined
end Quire
