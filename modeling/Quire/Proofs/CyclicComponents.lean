import Mathlib.Data.Set.Insert
import Quire.Proofs.Bags
import Quire.Proofs.DepthLimit
import Quire.Proofs.Resolution

set_option autoImplicit false

/-!
Components that call each other in circles never come to a document.

A call sees the registry in view around it as long as only fragments and host elements stand in
between. Where every component that can be called in this way calls one of them again, a pass that
gets past one call has another one to expand, with a smaller budget.
-/

namespace Quire

namespace Element

variable {registry : Registry} {name : Name} {props : Props} {component : Component}

private theorem hints_typed (top : props.get? parentKey = none) (bare : props.get? componentsKey = none) :
    Hints.ofProps (props.insert typeKey (.text name.text)) = .ok ⟨none, none, some name⟩ := by
  have parent : (props.insert typeKey (.text name.text)).get? parentKey = none := by
    rw [Bag.get?_insert_of_ne (by decide), top]
  have components : (props.insert typeKey (.text name.text)).get? componentsKey = none := by
    rw [Bag.get?_insert_of_ne (by decide), bare]
  have type : (props.insert typeKey (.text name.text)).get? typeKey = some (.text name.text) := by
    rw [Bag.get?_insert, if_pos rfl]
  simp only [Hints.ofProps, Hints.registryOf, Hints.nameOf, parent, components, type, bind,
    Except.bind]
  rfl

private theorem dispatch_typed (top : props.get? parentKey = none) (bare : props.get? componentsKey = none)
    (bound : registry.find? name = some component) (library : Library) (children : List Node)
    (handle : Option Handle) :
    (typed (.named name) props children handle).dispatch library registry =
      ⟨[.invoked component],
        library.invoke component ⟨props.without routingKeys, children, handle⟩⟩ := by
  have found : (typed (.named name) props children handle).component ⟨none, none, some name⟩
      registry = .ok component := by
    simp [Element.component, Hints.view, Registry.lookup?, bound]
  have handed : (typed (.named name) props children handle).forwarded ⟨none, none, some name⟩ =
      props.without routingKeys :=
    Bag.without_insert (by decide) _
  have hinted : Hints.ofProps (typed (.named name) props children handle).props =
      .ok ⟨none, none, some name⟩ := hints_typed top bare
  unfold dispatch
  rw [hinted]
  refine (Expansion.pure_bind _ _).trans ?_
  rw [found]
  refine (Expansion.pure_bind _ _).trans ?_
  rw [handed]
  rfl

end Element

namespace Node

/-- An element that a compiled page writes for one of `names`, to be looked up as it stands: it
brings no registry along and is not part of another component. -/
inductive Calls (names : Set Name) : Node → Prop where
  | intro {name props children handle} :
      name ∈ names → Bag.get? props parentKey = none → Bag.get? props componentsKey = none →
      Calls names (.ofElement (.typed (.named name) props children handle))

inductive Exposes (names : Set Name) : Node → Prop where
  | call {node} : Calls names node → Exposes names node
  | fragment {children child} :
      child ∈ children → Exposes names child → Exposes names (.fragment children)
  | host {tag attributes children handle child} :
      child ∈ children → Exposes names child → Exposes names (.host tag attributes children handle)

end Node

def Registry.Returns (registry : Registry) (library : Library) (names : Set Name)
    (shape : Node → Prop) : Prop :=
  ∀ name ∈ names, ∃ component, registry.find? name = some component ∧
    ∀ invocation, ∃ rendered, library.invoke component invocation = .ok rendered ∧ shape rendered

theorem Registry.Returns.dispatch {registry : Registry} {library : Library} {names : Set Name}
    {shape : Node → Prop} {name : Name} {props : Props}
    (returns : registry.Returns library names shape) (named : name ∈ names)
    (top : props.get? parentKey = none) (bare : props.get? componentsKey = none)
    (children : List Node) (handle : Option Handle) :
    ∃ called rendered,
      (Element.typed (.named name) props children handle).dispatch library registry =
        ⟨called, .ok rendered⟩ ∧ shape rendered := by
  obtain ⟨component, bound, always⟩ := returns name named
  obtain ⟨rendered, invoked, shaped⟩ := always ⟨props.without routingKeys, children, handle⟩
  refine ⟨[.invoked component], rendered, ?_, shaped⟩
  rw [Element.dispatch_typed top bare bound, invoked]

namespace Node

variable {library : Library} {root : Registry} {names : Set Name} {node : Node}

/-- What expands holds no call in the open: expanding a call takes a smaller budget than expanding
what holds it, and so does expanding the call that it returns. -/
theorem not_exposes_of_expands {budget next final : Nat} {nodes : List Node} {steps : List Step}
    {trees : List (Tree Nat)} (cyclic : root.Returns library names (Exposes names))
    (expansion : Expands library budget root next nodes steps trees final) :
    ∀ node ∈ nodes, ¬ node.Exposes names := by
  induction expansion with
  | nil => nofun
  | empty _ ih | text _ ih | number _ ih =>
      refine List.forall_mem_cons.mpr ⟨?_, ih cyclic⟩
      rintro (⟨⟨⟩⟩)
  | fragment _ _ childrenIH restIH =>
      refine List.forall_mem_cons.mpr ⟨?_, restIH cyclic⟩
      intro exposed
      cases exposed with
      | call call => cases call
      | fragment member exposed => exact childrenIH cyclic _ member exposed
  | provider _ _ _ restIH =>
      refine List.forall_mem_cons.mpr ⟨?_, restIH cyclic⟩
      intro exposed
      cases exposed with
      | call call => cases call
  | element dispatched _ _ renderedIH restIH =>
      refine List.forall_mem_cons.mpr ⟨?_, restIH cyclic⟩
      intro exposed
      cases exposed with
      | call call =>
          obtain ⟨named, top, bare⟩ := call
          obtain ⟨_, _, ran, exposed⟩ := cyclic.dispatch named top bare _ _
          obtain ⟨-, same⟩ := Expansion.mk.inj (dispatched.symm.trans ran)
          cases same
          exact renderedIH cyclic _ List.mem_cons_self exposed
  | host _ _ _ childrenIH restIH =>
      refine List.forall_mem_cons.mpr ⟨?_, restIH cyclic⟩
      intro exposed
      cases exposed with
      | call call => cases call
      | host member exposed => exact childrenIH cyclic _ member exposed

theorem Calls.overruns (cyclic : root.Returns library names (Calls names))
    (call : node.Calls names) (budget next : Nat) : Overruns library budget root next [node] := by
  induction budget generalizing node with
  | zero => exact .exhausted
  | succ budget ih =>
      obtain ⟨named, top, bare⟩ := call
      obtain ⟨called, rendered, dispatched, again⟩ := cyclic.dispatch named top bare _ _
      exact .opened (.element dispatched) (ih again)

/-- Components that call each other in circles never produce a document. If every one of `names`
is bound to a component that always returns a node with a call of one of them in the open, no tree
with such a call in the open renders, under any limit; and if they return just such a call, a call
of one of them overruns every limit. -/
theorem render_cyclic_never_succeeds (cyclic : root.Returns library names (Exposes names))
    (limit : Nat) :
    (∀ node : Node, node.Exposes names →
      ∀ document, (node.render library limit root).result ≠ .ok document) ∧
    (root.Returns library names (Calls names) → ∀ node : Node, node.Calls names →
      (node.render library limit root).result = .error (.depthExceeded (min limit 1024))) := by
  constructor
  · intro node exposed document rendered
    obtain ⟨steps, final, expansion⟩ := expands_of_render rendered
    exact not_exposes_of_expands cyclic expansion node List.mem_cons_self exposed
  · intro bare node call
    exact render_of_overruns (call.overruns bare _ 0)

end Node

def Node.bareCall (name : String) : Node :=
  .ofElement (.typed (.named ⟨name⟩) ∅ [] none)

def Library.alternating (around : Node → Node) : Library where
  configured _ := .fragment
  custom
    | 0 => .custom "Question" fun _ => .ok (around (.bareCall "Answer"))
    | _ => .custom "Answer" fun _ => .ok (around (.bareCall "Question"))

def Registry.alternating : Registry :=
  (Registry.empty.insert ⟨"Question"⟩ (.custom 0)).insert ⟨"Answer"⟩ (.custom 1)

def alternatingNames : Set Name :=
  {⟨"Question"⟩, ⟨"Answer"⟩}

namespace Node

private theorem calls_bareCall {name : String} {names : Set Name} (named : ⟨name⟩ ∈ names) :
    (bareCall name).Calls names :=
  .intro named rfl rfl

private theorem returns_alternating {around : Node → Node} {shape : Node → Prop}
    (shaped : ∀ node : Node, node.Calls alternatingNames → shape (around node)) :
    Registry.alternating.Returns (.alternating around) alternatingNames shape := by
  rintro name (rfl | rfl)
  · exact ⟨.custom 0, rfl, fun _ => ⟨_, rfl, shaped _ (calls_bareCall (.inr rfl))⟩⟩
  · exact ⟨.custom 1, rfl, fun _ => ⟨_, rfl, shaped _ (calls_bareCall (.inl rfl))⟩⟩

def quoting (node : Node) : Node :=
  .host "p" ∅ [.text "See: ", .fragment [node]] none

theorem render_cyclic_alternating :
    Registry.alternating.Returns (.alternating quoting) alternatingNames
      (Exposes alternatingNames) ∧
    (∀ document, ((quoting (bareCall "Answer")).render (.alternating quoting) 64
      .alternating).result ≠ .ok document) ∧
    Registry.alternating.Returns (.alternating id) alternatingNames (Calls alternatingNames) ∧
    ((bareCall "Question").render (.alternating id) 4096 .alternating).result =
      .error (.depthExceeded 1024) := by
  have exposed : ∀ node : Node, node.Calls alternatingNames →
      (quoting node).Exposes alternatingNames := by
    intro node call
    exact .host (.tail _ (.head _)) (.fragment (.head _) (.call call))
  have question : (bareCall "Question").Calls alternatingNames := calls_bareCall (.inl rfl)
  have answer : (bareCall "Answer").Calls alternatingNames := calls_bareCall (.inr rfl)
  have quoted := returns_alternating exposed
  have direct : Registry.alternating.Returns (.alternating id) alternatingNames
      (Calls alternatingNames) :=
    returns_alternating fun _ call => call
  have cyclic : Registry.alternating.Returns (.alternating id) alternatingNames
      (Exposes alternatingNames) :=
    returns_alternating fun _ call => .call call
  refine ⟨quoted, ?_, direct, ?_⟩
  · exact (render_cyclic_never_succeeds quoted 64).1 _ (exposed _ answer)
  · exact (render_cyclic_never_succeeds cyclic 4096).2 direct _ question

end Node
end Quire
