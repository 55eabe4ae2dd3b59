import Quire.Proofs.Handles

set_option autoImplicit false

/-!
What an aborted rendering does to handles.

A host element takes its handle as soon as it comes into being, and nothing takes the handle back
when a node further on fails. So a rendering leaves a handle alone exactly if it gets to no host
element that carries it, whether the rendering succeeds or not.
-/

namespace Quire

inductive Place.Attaches (handle : Handle) : Place → Prop where
  | intro {left view next tag attributes children} :
      Tag.isValid tag = true →
      Attaches handle ⟨left + 1, view, next, .host tag attributes children (some handle)⟩

namespace Node

variable {library : Library} {limit : Nat} {registry : Registry} {node : Node} {handle : Handle}

private theorem attaches_iff :
    (∃ step ∈ (node.render library limit registry).steps, step.Attaches handle) ↔
      ∃ place, Visits library (effectiveLimit limit + 1) registry 0 [node] place ∧
        place.Attaches handle := by
  rw [steps_render]
  constructor
  · intro recorded
    obtain ⟨_, made, ⟨⟩⟩ := recorded
    obtain ⟨left, view, attributes, children, visit, valid⟩ :=
      Visits.materialized_mem_steps_iff.mp made
    exact ⟨_, visit, .intro valid⟩
  · intro met
    obtain ⟨_, visit, ⟨valid⟩⟩ := met
    exact ⟨_, Visits.materialized_mem_steps_iff.mpr ⟨_, _, _, _, visit, valid⟩, .intro⟩

/-- A rendering lets go of no handle that it has attached, also when it fails. Whatever a handle was
attached to before, it stays there exactly if the rendering gets to no host element that carries the
handle; otherwise it ends on an element of this rendering, whether there is a document or not. -/
theorem render_keeps_handle_iff (library : Library) (limit : Nat) (registry : Registry)
    (node : Node) (handle : Handle) :
    ((∀ before, (node.render library limit registry).handles before handle = before handle) ↔
      ∀ place, Visits library (min limit 1024 + 1) registry 0 [node] place →
        ¬ place.Attaches handle) ∧
    ∀ place, Visits library (min limit 1024 + 1) registry 0 [node] place → place.Attaches handle →
      ∃ id, ∀ before, (node.render library limit registry).handles before handle = some id := by
  have moved : ∀ place, Visits library (min limit 1024 + 1) registry 0 [node] place →
      place.Attaches handle →
      ∃ id, ∀ before, (node.render library limit registry).handles before handle = some id := by
    intro place visit attached
    obtain ⟨_, _, id, _, -, -, ended⟩ :=
      Handles.follow_of_attaches (attaches_iff.mpr ⟨place, visit, attached⟩)
    exact ⟨id, ended⟩
  refine ⟨⟨?_, ?_⟩, moved⟩
  · intro kept place visit attached
    obtain ⟨id, ended⟩ := moved place visit attached
    have lost := (kept .empty).symm.trans (ended .empty)
    cases lost
  · intro apart before
    apply Handles.follow_of_not_attaches
    intro step made attaches
    obtain ⟨place, visit, attached⟩ := attaches_iff.mp ⟨step, made, attaches⟩
    exact apart place visit attached

def markedSecond : Node :=
  .fragment [.host "p" ∅ [] none, .host "p" ∅ [] (some ⟨"intro"⟩)]

def markedBeforeStray : Node :=
  .fragment [.host "p" ∅ [] (some ⟨"intro"⟩),
    .ofElement (.typed (.named ⟨"Missing"⟩) ∅ [] none)]

/-- A handle that a document was rendered with does not survive a rendering that fails later. -/
theorem aborted_render_moves_handle :
    (markedSecond.render .doubling 256 ∅).result =
      .ok [.element 0 "p" ∅ [], .element 1 "p" ∅ []] ∧
    (markedSecond.render .doubling 256 ∅).handles .empty ⟨"intro"⟩ = some 1 ∧
    (markedBeforeStray.render .doubling 256 ∅).result = .error (.unresolved ⟨"Missing"⟩) ∧
    (markedBeforeStray.render .doubling 256 ∅).handles
      ((markedSecond.render .doubling 256 ∅).handles .empty) ⟨"intro"⟩ = some 0 :=
  ⟨rfl, rfl, rfl, rfl⟩

end Node
end Quire
