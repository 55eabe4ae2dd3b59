import Quire.Proofs.DepthLimit
import Quire.Proofs.Registries

set_option autoImplicit false

/-!
Providers that stand inside each other act as one.

Below a chain of providers the innermost binding of a name is in view, and merging their overrides
beforehand brings the same registry into view. One provider takes one level of nesting where the
chain takes one for each, so that a chain that renders can be replaced, but not the other way round.
-/

namespace Quire

def Overrides.viewThrough (layers : List Registry) (root : Registry) : Registry :=
  layers.foldl (fun view layer => (Overrides.map layer).view view) root

def Node.within : List Registry → List Node → List Node
  | [], children => children
  | layer :: layers, children => [.provider (.map layer) (within layers children)]

namespace Overrides

private theorem viewThrough_cons (layer : Registry) (layers : List Registry) (root : Registry) :
    viewThrough (layer :: layers) root = viewThrough layers ((Overrides.map layer).view root) := rfl

private theorem viewThrough_eq_merged (layers : List Registry) (root : Registry) :
    viewThrough layers root = root.merged (layers.foldl Registry.merged ∅) := by
  suffices grouped : ∀ inner : Registry, viewThrough layers (root.merged inner) =
      root.merged (layers.foldl Registry.merged inner) by
    have whole := grouped ∅
    rwa [Registry.merged_of_isEmpty root rfl] at whole
  induction layers with
  | nil => exact fun inner => rfl
  | cons layer layers ih =>
      intro inner
      rw [viewThrough_cons, view_map, Registry.merged_assoc, ih, List.foldl_cons]

/-- The innermost layer that binds a name decides, and the root where none does. -/
theorem find?_viewThrough (layers : List Registry) (root : Registry) (name : Name) :
    (viewThrough layers root).find? name =
      (layers.reverse.findSome? fun layer => layer.find? name).or (root.find? name) := by
  induction layers generalizing root with
  | nil => rfl
  | cons layer layers ih =>
      rw [viewThrough_cons, ih, view_map, Registry.find?_merged, List.reverse_cons,
        List.findSome?_append, Option.or_assoc]
      simp

end Overrides

namespace Expands

variable {library : Library} {budget next final : Nat} {registry : Registry}
  {layers : List Registry} {children : List Node} {steps : List Step} {trees : List (Tree Nat)}

theorem of_provider {overrides : Overrides}
    (expansion : Expands library budget registry next [.provider overrides children] steps trees
      final) :
    ∃ made, Expands library budget (overrides.view registry) next children made trees final := by
  obtain ⟨smaller, rfl⟩ := expansion.exists_succ_budget
  obtain ⟨made, inside, -⟩ := provider_iff.mp expansion
  exact ⟨made, inside.of_le (Nat.le_succ smaller)⟩

private theorem of_within
    (expansion : Expands library budget registry next (Node.within layers children) steps trees
      final) :
    ∃ made, Expands library budget (Overrides.viewThrough layers registry) next children made trees
      final := by
  induction layers generalizing budget registry steps with
  | nil => exact ⟨steps, expansion⟩
  | cons layer layers ih =>
      obtain ⟨below, inside⟩ := expansion.of_provider
      exact ih inside

end Expands

namespace Node

/-- Provider chains compose. In the registry seen below a chain, the last layer that binds a name
decides and the root comes after all layers. The same registry is seen below one provider of all
layers merged, and what the chain renders to, that provider renders to. -/
theorem render_provider_chain_composes (library : Library) (limit : Nat) (root first : Registry)
    (others : List Registry) (children : List Node) :
    (∀ name, (Overrides.viewThrough (first :: others) root).find? name =
      ((first :: others).reverse.findSome? fun layer => layer.find? name).or (root.find? name)) ∧
    (Overrides.viewThrough (first :: others) root ==
      (Overrides.map (others.foldl Registry.merged first)).view root) = true ∧
    ∀ document,
      ((Node.provider (.map first) (within others children)).render library limit root).result =
        .ok document →
      ((Node.provider (.map (others.foldl Registry.merged first)) children).render library limit
        root).result = .ok document := by
  have sameView : Overrides.viewThrough (first :: others) root =
      (Overrides.map (others.foldl Registry.merged first)).view root := by
    rw [Overrides.viewThrough_eq_merged, List.foldl_cons, Registry.empty_merged, Overrides.view_map]
  refine ⟨Overrides.find?_viewThrough (first :: others) root, ?_, ?_⟩
  · rw [sameView]
    exact Registry.beq_self _
  · intro document rendered
    obtain ⟨steps, final, expansion⟩ := expands_of_render rendered
    obtain ⟨below, inside, -⟩ := Expands.provider_iff.mp expansion
    obtain ⟨made, bare⟩ := inside.of_within
    rw [← Overrides.viewThrough_cons, sameView] at bare
    have single := Expands.provider_iff.mpr ⟨made, bare, rfl⟩
    exact (render_of_expands single).1

def loopLayer : Registry :=
  Registry.empty.insert ⟨"b"⟩ (.custom 0)

def emphasisLayer : Registry :=
  Registry.empty.insert ⟨"b"⟩ (.builtin ⟨"em"⟩)

theorem render_provider_chain_shadowedLoop :
    ((Node.provider (.map loopLayer) (within [∅, emphasisLayer] [boldParagraph])).render .looping 5
        ∅).result = .ok [.element 0 "p" ∅ [.element 1 "em" ∅ []]] ∧
      ((Node.provider (.map ([∅, emphasisLayer].foldl Registry.merged loopLayer))
        [boldParagraph]).render .looping 5 ∅).result =
          .ok [.element 0 "p" ∅ [.element 1 "em" ∅ []]] ∧
      (Overrides.viewThrough [loopLayer, ∅, emphasisLayer] ∅).find? ⟨"b"⟩ =
        some (.builtin ⟨"em"⟩) := by
  have nested : ((Node.provider (.map loopLayer)
      (within [∅, emphasisLayer] [boldParagraph])).render .looping 5 ∅).result =
        .ok [.element 0 "p" ∅ [.element 1 "em" ∅ []]] := rfl
  obtain ⟨found, -, composes⟩ := render_provider_chain_composes .looping 5 ∅ loopLayer
    [∅, emphasisLayer] [boldParagraph]
  exact ⟨nested, composes _ nested, found ⟨"b"⟩⟩

end Node
end Quire
