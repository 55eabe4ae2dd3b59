import Quire.Proofs.Forest
import Quire.Proofs.PlainComponents

set_option autoImplicit false

/-!
The nodes that a pass gets to, successful or not.

`Opens` says which nodes a node puts in its place, and `Visits` follows a pass from node to node: to
what a node opens, and to a sibling once those before it have succeeded. A pass fails exactly at the
places it visits, host elements come into being there and nowhere else, and what holds where a pass
starts and is handed on by `Opens` holds wherever it gets to.
-/

namespace Quire

/-- What a node is expanded to: the nodes, the registry in view there, and the id they start with.
A leaf opens nothing, nor does a node that fails on the spot. -/
inductive Node.Opens (library : Library) (registry : Registry) (next : Nat) :
    Node → Registry → Nat → List Node → Prop where
  | fragment {children} : Opens library registry next (.fragment children) registry next children
  | provider {overrides children} :
      Opens library registry next (.provider overrides children) (overrides.view registry) next
        children
  | element {reference props children handle called rendered} :
      Element.dispatch library registry ⟨reference, props, children, handle⟩ =
        ⟨called, .ok rendered⟩ →
      Opens library registry next (.element reference props children handle) registry next
        [rendered]
  | host {tag attributes children handle} :
      Tag.isValid tag = true →
      Opens library registry next (.host tag attributes children handle) registry (next + 1)
        children

structure Place where
  budget : Nat
  view : Registry
  next : Nat
  node : Node

/-- A pass over nodes gets to a place. Whatever comes before it succeeds. -/
inductive Visits (library : Library) : Nat → Registry → Nat → List Node → Place → Prop where
  | here {budget registry next node rest} :
      Visits library budget registry next (node :: rest) ⟨budget, registry, next, node⟩
  | opened {budget registry next node inside start children rest place} :
      node.Opens library registry next inside start children →
      Visits library budget inside start children place →
      Visits library (budget + 1) registry next (node :: rest) place
  | later {budget registry next node steps trees middle rest place} :
      Expands library budget registry next [node] steps trees middle →
      Visits library budget registry middle rest place →
      Visits library budget registry next (node :: rest) place

inductive Place.Raises (library : Library) (limit : Nat) : Place → RenderError → Prop where
  | exhausted {view next node} : Raises library limit ⟨0, view, next, node⟩ (.depthExceeded limit)
  | dispatch {budget view next reference props children handle error} :
      (Element.dispatch library view ⟨reference, props, children, handle⟩).result = .error error →
      Raises library limit ⟨budget + 1, view, next, .element reference props children handle⟩ error
  | invalidTag {budget view next tag attributes children handle} :
      Tag.isValid tag = false →
      Raises library limit ⟨budget + 1, view, next, .host tag attributes children handle⟩
        (.invalidTag tag)

namespace Expansion

variable {α β : Type}

private theorem mem_steps_bind {first : Expansion α} {next : α → Expansion β} {step : Step} :
    step ∈ (first >>= next).steps ↔
      step ∈ first.steps ∨ ∃ value, first.result = .ok value ∧ step ∈ (next value).steps := by
  cases reached : first.result with
  | error error =>
      rw [bind_of_error reached]
      simp
  | ok value =>
      rw [bind_of_ok reached]
      simp

end Expansion

namespace Pass

variable {α β : Type}

private theorem mem_steps_concatMap_cons {expand : β → Pass (List α)} {item : β} {items : List β}
    {next : Nat} {step : Step} :
    step ∈ ((concatMap expand (item :: items)).run next).steps ↔
      step ∈ ((expand item).run next).steps ∨
        ∃ first, ((expand item).run next).result = .ok first ∧
          step ∈ ((concatMap expand items).run first.2).steps := by
  simp only [run_concatMap_cons, Expansion.mem_steps_bind, Expansion.pure_eq, List.not_mem_nil,
    and_false, exists_false, or_false]

end Pass

private theorem Overrides.materialized_notMem_steps (overrides : Overrides) {tag : String} {id : Nat}
    {handle : Option Handle} : .materialized tag id handle ∉ overrides.steps := by
  intro made
  unfold Overrides.steps at made
  split at made
  · split at made <;> simp at made
  · cases made

private theorem Element.materialized_notMem_steps {library : Library} {registry : Registry}
    {element : Element} {tag : String} {id : Nat} {handle : Option Handle} :
    .materialized tag id handle ∉ (element.dispatch library registry).steps := by
  simp [dispatch, Expansion.mem_steps_bind, Expansion.ofResult, Expansion.record]

namespace Node

variable {library : Library} {limit budget next start final : Nat} {registry inside : Registry}
  {node : Node} {below : List Node} {steps : List Step} {trees : List (Tree Nat)}
  {error : RenderError}

namespace Opens

theorem expands (opens : node.Opens library registry next inside start below)
    (expansion : Expands library budget inside start below steps trees final) :
    ∃ made grown, Expands library (budget + 1) registry next [node] made grown final := by
  cases opens with
  | fragment => exact ⟨_, _, .fragment expansion .nil⟩
  | provider => exact ⟨_, _, .provider expansion .nil⟩
  | element dispatched => exact ⟨_, _, .element dispatched expansion .nil⟩
  | host valid => exact ⟨_, _, .host valid expansion .nil⟩

private theorem expands_below (opens : node.Opens library registry next inside start below)
    (expansion : Expands library (budget + 1) registry next [node] steps trees final) :
    ∃ made inner, Expands library budget inside start below made inner final ∧
      Tree.elementsAll inner ⊆ Tree.elementsAll trees := by
  cases opens with
  | fragment => exact ⟨_, _, Expands.fragment_iff.mp expansion, List.Subset.refl _⟩
  | provider =>
      obtain ⟨made, inner, -⟩ := Expands.provider_iff.mp expansion
      exact ⟨made, _, inner, List.Subset.refl _⟩
  | element dispatched =>
      obtain ⟨_, _, made, dispatched', inner, -⟩ := Expands.element_iff.mp expansion
      cases dispatched.symm.trans dispatched'
      exact ⟨made, _, inner, List.Subset.refl _⟩
  | host valid =>
      obtain ⟨made, inner, -, children, -, rfl⟩ := Expands.host_iff.mp expansion
      refine ⟨made, inner, children, ?_⟩
      exact List.subset_append_of_subset_left _ (List.subset_cons_of_subset _ (List.Subset.refl _))

theorem result_eq_error (opens : node.Opens library registry next inside start below)
    (failed : ((Pass.concatMap (expand library limit budget inside) below).run start).result =
      .error error) :
    ((node.expand library limit (budget + 1) registry).run next).result = .error error := by
  cases opens with
  | fragment => exact failed
  | provider => rw [run_expand_provider, Expansion.record_bind, failed]
  | element dispatched =>
      rw [Pass.concatMap_singleton] at failed
      rw [run_expand_element, dispatched, Expansion.mk_ok_bind, failed]
  | host valid =>
      rw [run_expand_host valid, Expansion.record_bind, Expansion.bind_of_error failed]

end Opens

private theorem raises_or_opens
    (failed : ((node.expand library limit (budget + 1) registry).run next).result = .error error) :
    Place.Raises library limit ⟨budget + 1, registry, next, node⟩ error ∨
      ∃ inside start below, node.Opens library registry next inside start below ∧
        ((Pass.concatMap (expand library limit budget inside) below).run start).result =
          .error error := by
  cases node with
  | empty | text content | number value => cases failed
  | fragment children => exact .inr ⟨_, _, _, .fragment, failed⟩
  | provider overrides children =>
      rw [run_expand_provider, Expansion.record_bind] at failed
      exact .inr ⟨_, _, _, .provider, failed⟩
  | element reference props children handle =>
      rw [run_expand_element, Expansion.result_bind] at failed
      cases dispatched : (Element.dispatch library registry ⟨reference, props, children, handle⟩).result
        with
      | error other =>
          rw [dispatched] at failed
          cases failed
          exact .inl (.dispatch dispatched)
      | ok rendered =>
          rw [dispatched] at failed
          refine .inr ⟨_, _, _, .element (Expansion.ext rfl dispatched), ?_⟩
          rw [Pass.concatMap_singleton]
          exact failed
  | host tag attributes children handle =>
      cases valid : Tag.isValid tag with
      | false =>
          rw [run_expand_host_of_invalid valid] at failed
          cases failed
          exact .inl (.invalidTag valid)
      | true =>
          refine .inr ⟨_, _, _, .host valid, ?_⟩
          rw [run_expand_host valid, Expansion.record_bind, Expansion.result_bind] at failed
          cases inner : ((Pass.concatMap (expand library limit budget registry) children).run
              (next + 1)).result with
          | error other =>
              rw [inner] at failed
              cases failed
              rfl
          | ok reached =>
              rw [inner] at failed
              cases failed

theorem materialized_mem_steps_iff {tag : String} {id : Nat} {handle : Option Handle} :
    .materialized tag id handle ∈
        ((node.expand library limit (budget + 1) registry).run next).steps ↔
      (∃ attributes children, node = .host tag attributes children handle ∧
        Tag.isValid tag = true ∧ id = next) ∨
      ∃ inside start below, node.Opens library registry next inside start below ∧
        .materialized tag id handle ∈
          ((Pass.concatMap (expand library limit budget inside) below).run start).steps := by
  constructor
  · intro made
    cases node with
    | empty | text content | number value => cases made
    | fragment children => exact .inr ⟨_, _, _, .fragment, made⟩
    | provider overrides children =>
        rw [run_expand_provider, Expansion.record_bind] at made
        have inside := (List.mem_append.mp made).resolve_left overrides.materialized_notMem_steps
        exact .inr ⟨_, _, _, .provider, inside⟩
    | element reference props children own =>
        rw [run_expand_element, Expansion.mem_steps_bind] at made
        obtain ⟨rendered, dispatched, inside⟩ :=
          made.resolve_left Element.materialized_notMem_steps
        refine .inr ⟨_, _, _, .element (Expansion.ext rfl dispatched), ?_⟩
        rwa [Pass.concatMap_singleton]
    | host own attributes children carried =>
        cases valid : Tag.isValid own with
        | false =>
            rw [run_expand_host_of_invalid valid] at made
            cases made
        | true =>
            rw [run_expand_host valid, Expansion.record_bind] at made
            rcases List.mem_cons.mp made with here | inside
            · cases here
              exact .inl ⟨_, _, rfl, valid, rfl⟩
            · rcases Expansion.mem_steps_bind.mp inside with inside | ⟨_, _, none⟩
              · exact .inr ⟨_, _, _, .host valid, inside⟩
              · cases none
  · intro origin
    rcases origin with ⟨attributes, children, rfl, valid, rfl⟩ | ⟨inside, start, below, opens, made⟩
    · rw [run_expand_host valid, Expansion.record_bind]
      exact List.mem_cons_self
    · cases opens with
      | fragment => exact made
      | provider =>
          rw [run_expand_provider, Expansion.record_bind]
          exact List.mem_append_right _ made
      | element dispatched =>
          rw [Pass.concatMap_singleton] at made
          rw [run_expand_element, dispatched, Expansion.mk_ok_bind]
          exact List.mem_append_right _ made
      | host valid =>
          rw [run_expand_host valid, Expansion.record_bind]
          exact List.mem_cons_of_mem _ (Expansion.mem_steps_bind.mpr (.inl made))

end Node

namespace Visits

variable {library : Library} {budget next limit : Nat} {registry : Registry} {nodes : List Node}
  {place : Place}

theorem cons {node : Node} (visit : Visits library budget registry next [node] place) :
    Visits library budget registry next (node :: nodes) place := by
  cases visit with
  | here => exact .here
  | opened opens visit => exact .opened opens visit
  | later _ none => cases none

/-- What holds where a pass starts, of the children of a node in the registry in view below it, and
of what components return in the pass, holds wherever the pass gets to. -/
theorem invariant {holds : Registry → Node → Prop}
    (visit : Visits library budget registry next nodes place)
    (start : ∀ node ∈ nodes, holds registry node)
    (below : ∀ {view node}, holds view node →
      ∀ child ∈ node.children, holds (node.viewBelow view) child)
    (returned : ∀ {left view next' reference props children handle called rendered},
      Visits library budget registry next nodes
        ⟨left + 1, view, next', .element reference props children handle⟩ →
      Element.dispatch library view ⟨reference, props, children, handle⟩ = ⟨called, .ok rendered⟩ →
      holds view (.element reference props children handle) → holds view rendered) :
    holds place.view place.node := by
  induction visit with
  | here => exact start _ List.mem_cons_self
  | opened opens _ ih =>
      have here := start _ List.mem_cons_self
      apply ih
      · cases opens with
        | fragment | provider | host => exact below here
        | element dispatched =>
            exact List.forall_mem_singleton.mpr (returned .here dispatched here)
      · intro _ _ _ _ _ _ _ _ _ visit
        exact returned (.opened opens visit)
  | later expansion _ ih =>
      apply ih fun node member => start node (List.mem_cons_of_mem _ member)
      intro _ _ _ _ _ _ _ _ _ visit
      exact returned (.later expansion visit)

theorem expands {final : Nat} {steps : List Step} {trees : List (Tree Nat)}
    (visit : Visits library budget registry next nodes place)
    (expansion : Expands library budget registry next nodes steps trees final) :
    ∃ made inner stop,
      Expands library place.budget place.view place.next [place.node] made inner stop ∧
      Tree.elementsAll inner ⊆ Tree.elementsAll trees := by
  induction visit generalizing steps trees final with
  | here =>
      obtain ⟨made, inner, middle, _, _, first, -, -, rfl⟩ := expansion.uncons
      refine ⟨made, inner, middle, first, ?_⟩
      rw [Tree.elementsAll_append]
      exact List.subset_append_left _ _
  | opened opens _ ih =>
      obtain ⟨_, _, _, _, _, first, -, -, rfl⟩ := expansion.uncons
      obtain ⟨_, _, opened, kept⟩ := opens.expands_below first
      obtain ⟨made, inner, stop, reached, part⟩ := ih opened
      refine ⟨made, inner, stop, reached, ?_⟩
      rw [Tree.elementsAll_append]
      exact List.subset_append_of_subset_left _ (List.Subset.trans part kept)
  | later first _ ih =>
      obtain ⟨_, _, _, _, _, first', rest, -, rfl⟩ := expansion.uncons
      cases (first.run 0).symm.trans (first'.run 0)
      obtain ⟨made, inner, stop, reached, part⟩ := ih rest
      refine ⟨made, inner, stop, reached, ?_⟩
      rw [Tree.elementsAll_append]
      exact List.subset_append_of_subset_right _ part

theorem result_eq_error {error : RenderError}
    (visit : Visits library budget registry next nodes place)
    (raises : place.Raises library limit error) :
    ((Pass.concatMap (Node.expand library limit budget registry) nodes).run next).result =
      .error error := by
  induction visit with
  | here =>
      apply Pass.result_concatMap_cons_of_error
      cases raises with
      | exhausted => rfl
      | dispatch failed => rw [Node.run_expand_element, Expansion.bind_of_error failed]
      | invalidTag invalid => rw [Node.run_expand_host_of_invalid invalid]
  | opened opens _ ih => exact Pass.result_concatMap_cons_of_error (opens.result_eq_error (ih raises))
  | later expansion _ ih =>
      have ran := (Expands.singleton_iff_run limit).mp expansion
      rw [Pass.run_concatMap_cons, ran, Expansion.mk_ok_bind, Expansion.bind_of_error (ih raises)]

private theorem exists_of_error {error : RenderError}
    (failed : ((Pass.concatMap (Node.expand library limit budget registry) nodes).run next).result =
      .error error) :
    ∃ place, Visits library budget registry next nodes place ∧
      place.Raises library limit error := by
  induction budget generalizing registry next nodes with
  | zero =>
      cases nodes with
      | nil => cases failed
      | cons node rest =>
          cases failed
          exact ⟨_, .here, .exhausted⟩
  | succ budget budgetIH =>
      induction nodes generalizing next with
      | nil => cases failed
      | cons node rest restIH =>
          rw [Pass.result_concatMap_cons] at failed
          cases ran : ((node.expand library limit (budget + 1) registry).run next).result with
          | error other =>
              rw [ran] at failed
              cases failed
              rcases Node.raises_or_opens ran with raises | ⟨inside, start, below, opens, failed⟩
              · exact ⟨_, .here, raises⟩
              · obtain ⟨place, visit, raises⟩ := budgetIH failed
                exact ⟨place, .opened opens visit, raises⟩
          | ok reached =>
              have expansion := (Expands.singleton_iff_run limit).mpr (Expansion.ext rfl ran)
              rw [ran] at failed
              cases others : ((Pass.concatMap (Node.expand library limit (budget + 1) registry)
                  rest).run reached.2).result with
              | error other =>
                  simp only [bind, Except.bind, others] at failed
                  cases failed
                  obtain ⟨place, visit, raises⟩ := restIH others
                  exact ⟨place, .later expansion visit, raises⟩
              | ok further =>
                  simp only [bind, Except.bind, others] at failed
                  cases failed

/-- Host elements come into being at the host nodes that a pass gets to, under the id that is next
there, and nowhere else. -/
theorem materialized_mem_steps_iff {tag : String} {id : Nat} {handle : Option Handle} :
    .materialized tag id handle ∈
        ((Pass.concatMap (Node.expand library limit budget registry) nodes).run next).steps ↔
      ∃ left view attributes children,
        Visits library budget registry next nodes
          ⟨left + 1, view, id, .host tag attributes children handle⟩ ∧
        Tag.isValid tag = true := by
  constructor
  · intro made
    induction budget generalizing registry next nodes with
    | zero => cases nodes <;> cases made
    | succ budget budgetIH =>
        induction nodes generalizing next with
        | nil => cases made
        | cons node rest restIH =>
            rcases Pass.mem_steps_concatMap_cons.mp made with here | ⟨first, succeeded, later⟩
            · rcases Node.materialized_mem_steps_iff.mp here with
                ⟨_, _, rfl, valid, rfl⟩ | ⟨_, _, _, opens, inside⟩
              · exact ⟨_, _, _, _, .here, valid⟩
              · obtain ⟨left, view, attributes, children, visit, valid⟩ := budgetIH inside
                exact ⟨left, view, attributes, children, .opened opens visit, valid⟩
            · obtain ⟨left, view, attributes, children, visit, valid⟩ := restIH later
              have expansion := (Expands.singleton_iff_run limit).mpr (Expansion.ext rfl succeeded)
              exact ⟨left, view, attributes, children, .later expansion visit, valid⟩
  · intro met
    obtain ⟨left, view, attributes, children, visit, valid⟩ := met
    generalize reached : (⟨left + 1, view, id, .host tag attributes children handle⟩ : Place) = place
      at visit
    induction visit with
    | here =>
        cases reached
        refine Pass.mem_steps_concatMap_cons.mpr (.inl ?_)
        exact Node.materialized_mem_steps_iff.mpr (.inl ⟨_, _, rfl, valid, rfl⟩)
    | opened opens _ ih =>
        refine Pass.mem_steps_concatMap_cons.mpr (.inl ?_)
        exact Node.materialized_mem_steps_iff.mpr (.inr ⟨_, _, _, opens, ih reached⟩)
    | later expansion _ ih =>
        have ran := (Expands.singleton_iff_run limit).mp expansion
        exact Pass.mem_steps_concatMap_cons.mpr (.inr ⟨_, by rw [ran], ih reached⟩)

end Visits

namespace Node

inductive Invokes (library : Library) (limit : Nat) (root : Registry) (node : Node) :
    Registry → Component → Invocation → Prop where
  | intro {left view next reference props children handle component} :
      Visits library (effectiveLimit limit + 1) root 0 [node]
        ⟨left + 1, view, next, .element reference props children handle⟩ →
      props.Routable →
      Element.component ⟨reference, props, children, handle⟩ (.read props) view = .ok component →
      Invokes library limit root node view component
        ⟨Element.forwarded ⟨reference, props, children, handle⟩ (.read props), children, handle⟩

variable {library : Library} {limit : Nat} {registry : Registry} {node : Node} {error : RenderError}

theorem visits_of_render_error
    (failed : (node.render library limit registry).result = .error error) :
    ∃ place, Visits library (effectiveLimit limit + 1) registry 0 [node] place ∧
      place.Raises library (effectiveLimit limit) error :=
  Visits.exists_of_error (render_eq_error_iff.mp failed)

end Node
end Quire
