import Quire.Proofs.Visits

set_option autoImplicit false

/-!
A name that is known at the root stays known.

Overrides that add bindings can replace what a name stands for, but they cannot take the name away,
and neither can the registry that an element carries. Where a rendering meets no other overrides, a
name that it reports as unresolved was never known.
-/

namespace Quire

def Library.replacing : Library where
  configured _ := .fragment
  custom _ := .custom "Replace" fun invocation =>
    .ok (.provider (.map (Registry.empty.insert ⟨"p"⟩ (.builtin ⟨"div"⟩))) invocation.children)

namespace Node

variable {library : Library} {limit : Nat} {root : Registry} {node : Node}

/-- A name is known in view of a node, and nothing in the node takes it away. -/
structure KeepsName (name : Name) (view : Registry) (node : Node) : Prop where
  adds : node.Throughout (fun _ node => node.AddsBindings) view
  known : view.Knows name

private theorem KeepsName.of_visits {name : Name} {place : Place} (keeps : node.KeepsName name root)
    (returned : ∀ view component invocation rendered,
      node.Invokes library limit root view component invocation →
      library.invoke component invocation = .ok rendered →
      rendered.Throughout (fun _ node => node.AddsBindings) view)
    (visit : Visits library (effectiveLimit limit + 1) root 0 [node] place) :
    place.node.KeepsName name place.view := by
  apply visit.invariant
  · exact List.forall_mem_singleton.mpr keeps
  · intro view node kept child member
    exact ⟨kept.adds.child child member, kept.adds.here.knows_below kept.known⟩
  · intro left view next reference props children handle called rendered visit dispatched kept
    obtain ⟨component, routable, found, invoked, -⟩ := Element.dispatch_eq_ok_iff.mp dispatched
    exact ⟨returned view component _ rendered (.intro visit routable found) invoked, kept.known⟩

/-- Overrides that add bindings hide no name. If all overrides that a rendering meets are of this
kind, in its tree and in what components return, and no component reports a name of its own, then a
name that is reported as unresolved is not bound at the root, not built in, and no lowercase tag. -/
theorem render_unresolved_is_unknown
    (adds : node.Throughout (fun _ node => node.AddsBindings) root)
    (returned : ∀ view component invocation rendered,
      node.Invokes library limit root view component invocation →
      library.invoke component invocation = .ok rendered →
      rendered.Throughout (fun _ node => node.AddsBindings) view)
    (raised : ∀ view component invocation name,
      node.Invokes library limit root view component invocation →
      library.invoke component invocation ≠ .error (.unresolved name))
    {name : Name} (failed : (node.render library limit root).result = .error (.unresolved name)) :
    root.find? name = none ∧ Builtin.find? name = none ∧ Tag.isLowercase name.text = false := by
  have unknown : ¬ root.Knows name := by
    intro known
    obtain ⟨place, visit, raises⟩ := visits_of_render_error failed
    have here := KeepsName.of_visits ⟨adds, known⟩ returned visit
    cases raises with
    | dispatch unresolved =>
        rcases Element.dispatch_result_error unresolved with
          hinted | ⟨routable, missing | ⟨component, found, invoked⟩⟩
        · obtain ⟨key, same⟩ := Hints.ofProps_eq_error hinted
          cases same
        · obtain ⟨other, same, unknown⟩ := Element.component_eq_error missing
          cases same
          exact unknown (here.known.view _)
        · exact raised _ component _ name (.intro visit routable found) invoked
  refine ⟨?_, ?_, ?_⟩
  · exact Option.not_isSome_iff_eq_none.mp fun bound => unknown (.inl bound)
  · exact Option.not_isSome_iff_eq_none.mp fun builtin => unknown (.inr (.inl builtin))
  · exact Bool.eq_false_iff.mpr fun lowercase => unknown (.inr (.inr lowercase))

def strayReference : Node :=
  .element (.named ⟨"Note"⟩)
    (Bag.ofList [(componentsKey, .components (Registry.empty.insert ⟨"Note"⟩ (.custom 0)))])
    [.element (.named ⟨"Nota"⟩) ∅ [] none] none

private theorem invokes_strayReference {view : Registry} {component : Component}
    {invocation : Invocation}
    (invokes : strayReference.Invokes .replacing 8 ∅ view component invocation) :
    component = .custom 0 ∧ invocation.children = [.element (.named ⟨"Nota"⟩) ∅ [] none] := by
  cases invokes with
  | intro visit routable found =>
      cases visit with
      | here =>
          cases found
          exact ⟨rfl, rfl⟩
      | opened opens visit =>
          cases opens with
          | element dispatched =>
              cases dispatched
              cases visit with
              | opened opens visit =>
                  cases opens with
                  | provider =>
                      cases visit with
                      | here => cases found
                      | opened opens _ =>
                          cases opens with
                          | element dispatched => cases dispatched
                      | later _ none => cases none
              | later _ none => cases none
      | later _ none => cases none

theorem render_unresolved_strayReference :
    strayReference.Throughout (fun _ node => node.AddsBindings) ∅ ∧
      (strayReference.render .replacing 8 ∅).result = .error (.unresolved ⟨"Nota"⟩) ∧
      (∅ : Registry).find? ⟨"Nota"⟩ = none ∧ Builtin.find? ⟨"Nota"⟩ = none ∧
      Tag.isLowercase "Nota" = false := by
  have leaf : ∀ {view : Registry}, (Node.element (.named ⟨"Nota"⟩) ∅ [] none).Throughout
      (fun _ node => node.AddsBindings) view := .intro trivial nofun
  have adds : strayReference.Throughout (fun _ node => node.AddsBindings) ∅ :=
    .intro trivial (List.forall_mem_singleton.mpr leaf)
  have failed : (strayReference.render .replacing 8 ∅).result = .error (.unresolved ⟨"Nota"⟩) := rfl
  refine ⟨adds, failed, render_unresolved_is_unknown adds ?_ ?_ failed⟩
  · intro view component invocation rendered invokes invoked
    obtain ⟨rfl, children⟩ := invokes_strayReference invokes
    cases invoked
    refine .intro trivial ?_
    show ∀ child ∈ invocation.children, _
    rw [children]
    exact List.forall_mem_singleton.mpr leaf
  · intro view component invocation name invokes
    obtain ⟨rfl, -⟩ := invokes_strayReference invokes
    nofun

end Node
end Quire
