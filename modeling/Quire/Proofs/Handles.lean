import Quire.Proofs.Numbering
import Quire.Proofs.Visits

set_option autoImplicit false

/-!
Handles end on the last element that carried them.

A rendering takes handles where its host elements come into being, one after the other, and these
get increasing ids. So every handle ends on the greatest id among the elements that carried it.
-/

namespace Quire

inductive Step.Attaches (handle : Handle) : Step → Prop where
  | intro {tag id} : Attaches handle (.materialized tag id (some handle))

def Step.id? : Step → Option Nat
  | .materialized _ id _ => some id
  | .merged _ | .invoked _ => none

private theorem Step.id?_eq_some_iff {step : Step} {id : Nat} :
    step.id? = some id ↔ ∃ tag handle, step = .materialized tag id handle := by
  cases step <;> simp [id?]

namespace Handles

variable {handle : Handle} {steps : List Step}

private theorem follow_cons (handles : Handles) (step : Step) (steps : List Step) :
    handles.follow (step :: steps) = (handles.after step).follow steps := rfl

private theorem after_of_not_attaches {step : Step} (apart : ¬ step.Attaches handle)
    (before : Handles) : before.after step handle = before handle := by
  cases step with
  | merged count => rfl
  | invoked component => rfl
  | materialized tag id carried =>
      have different : carried ≠ some handle := by
        intro same
        exact apart (same ▸ .intro)
      rw [after, attach, if_neg different]

theorem follow_of_not_attaches (apart : ∀ step ∈ steps, ¬ step.Attaches handle)
    (before : Handles) : before.follow steps handle = before handle := by
  induction steps generalizing before with
  | nil => rfl
  | cons step steps ih =>
      obtain ⟨here, later⟩ := List.forall_mem_cons.mp apart
      rw [follow_cons, ih later, after_of_not_attaches here]

/-- Steps that attach a handle leave it on the element of the last such step, whatever it was on
before. -/
theorem follow_of_attaches (attached : ∃ step ∈ steps, step.Attaches handle) :
    ∃ earlier tag id later, steps = earlier ++ .materialized tag id (some handle) :: later ∧
      (∀ step ∈ later, ¬ step.Attaches handle) ∧
      ∀ before : Handles, before.follow steps handle = some id := by
  induction steps with
  | nil => exact absurd attached (by simp)
  | cons first steps ih =>
      by_cases again : ∃ step ∈ steps, step.Attaches handle
      · obtain ⟨earlier, tag, id, later, rfl, apart, kept⟩ := ih again
        exact ⟨first :: earlier, tag, id, later, rfl, apart,
          fun before => kept (before.after first)⟩
      · have apart : ∀ step ∈ steps, ¬ step.Attaches handle := fun step member attaches =>
          again ⟨step, member, attaches⟩
        obtain ⟨step, member, attaches⟩ := attached
        rcases List.mem_cons.mp member with rfl | later
        · cases attaches with
          | @intro tag id =>
              refine ⟨[], tag, id, steps, rfl, apart, fun before => ?_⟩
              rw [follow_cons, follow_of_not_attaches apart, after, attach, if_pos rfl]
        · exact absurd attaches (apart step later)

end Handles

private theorem Overrides.filterMap_id?_steps (overrides : Overrides) :
    overrides.steps.filterMap Step.id? = [] := by
  unfold Overrides.steps
  split
  · split <;> rfl
  · rfl

private theorem Element.filterMap_id?_of_dispatch {library : Library} {registry : Registry}
    {element : Element} {called : List Step} {rendered : Node}
    (dispatched : element.dispatch library registry = ⟨called, .ok rendered⟩) :
    called.filterMap Step.id? = [] := by
  obtain ⟨component, -, -, -, rfl⟩ := Element.dispatch_eq_ok_iff.mp dispatched
  rfl

namespace Expands

variable {library : Library} {budget next final : Nat} {registry : Registry} {nodes : List Node}
  {steps : List Step} {trees : List (Tree Nat)}

private theorem filterMap_id?_steps
    (expansion : Expands library budget registry next nodes steps trees final) :
    steps.filterMap Step.id? = List.range' next (Tree.elementsAll trees).length := by
  induction expansion with
  | nil => rfl
  | empty _ ih | text _ ih | number _ ih => exact ih
  | fragment children _ childrenIH restIH =>
      rw [List.filterMap_append, childrenIH, restIH, children.final_eq, Tree.elementsAll_append,
        List.length_append, ← List.range'_append_1]
  | provider children _ childrenIH restIH =>
      rw [List.filterMap_append, List.filterMap_append, Overrides.filterMap_id?_steps,
        List.nil_append, childrenIH, restIH, children.final_eq, Tree.elementsAll_append,
        List.length_append, ← List.range'_append_1]
  | element dispatched rendered _ renderedIH restIH =>
      rw [List.filterMap_append, List.filterMap_append,
        Element.filterMap_id?_of_dispatch dispatched, List.nil_append, renderedIH, restIH,
        rendered.final_eq, Tree.elementsAll_append, List.length_append, ← List.range'_append_1]
  | host _ children _ childrenIH restIH =>
      simp only [List.cons_append, List.filterMap_cons, Step.id?, List.filterMap_append,
        Tree.elementsAll, Tree.elements, List.length_cons, List.length_append, List.range'_succ]
      rw [childrenIH, restIH, children.final_eq, List.range'_append_1]

private theorem pairwise_ids (expansion : Expands library budget registry next nodes steps trees final) :
    steps.Pairwise fun step other =>
      ∀ id, step.id? = some id → ∀ id', other.id? = some id' → id < id' := by
  have increasing : (steps.filterMap Step.id?).Pairwise (· < ·) := by
    rw [expansion.filterMap_id?_steps]
    exact List.pairwise_lt_range'
  exact List.pairwise_filterMap.mp increasing

private theorem eq_of_id? (expansion : Expands library budget registry next nodes steps trees final)
    {id : Nat} {step other : Step} (made : step ∈ steps) (madeOther : other ∈ steps)
    (numbered : step.id? = some id) (numberedOther : other.id? = some id) : other = step := by
  have ordered := expansion.pairwise_ids
  clear expansion
  induction steps with
  | nil => cases made
  | cons first rest ih =>
      obtain ⟨before, ordered⟩ := List.pairwise_cons.mp ordered
      rcases List.mem_cons.mp made with rfl | later <;>
        rcases List.mem_cons.mp madeOther with rfl | laterOther
      · rfl
      · exact absurd (before _ laterOther _ numbered _ numberedOther) (Nat.lt_irrefl id)
      · exact absurd (before _ later _ numberedOther _ numbered) (Nat.lt_irrefl id)
      · exact ih later laterOther ordered

private theorem findAll?_of_mem (expansion : Expands library budget registry 0 nodes steps trees final)
    {id : Nat} {tree : Tree Nat} (made : tree ∈ Tree.elementsAll trees)
    (numbered : tree.id? = some id) : Tree.findAll? id trees = some tree := by
  obtain ⟨position, found⟩ := List.mem_iff_getElem?.mp made
  obtain ⟨inside, -⟩ := List.getElem?_eq_some_iff.mp found
  have ids := congrArg (fun ids => ids[position]?) expansion.ids_eq
  simp only [List.getElem?_map, found, numbered, Option.map_some, List.getElem?_range' inside,
    Option.some.injEq] at ids
  obtain rfl : id = position := by omega
  rw [expansion.findAll?_eq_getElem?, found]

end Expands

structure Host where
  tag : String
  attributes : Props
  handle : Option Handle

namespace Node

/-- In the rendering of a tree a host element comes into being, under an id. -/
inductive Materializes (library : Library) (limit : Nat) (root : Registry) (node : Node) :
    Nat → Host → Prop where
  | intro {left view id tag attributes children handle} :
      Visits library (effectiveLimit limit + 1) root 0 [node]
        ⟨left + 1, view, id, .host tag attributes children handle⟩ →
      Tag.isValid tag = true →
      Materializes library limit root node id ⟨tag, attributes, handle⟩

def Carries (library : Library) (limit : Nat) (root : Registry) (node : Node) (handle : Handle)
    (id : Nat) : Prop :=
  ∃ host, node.Materializes library limit root id host ∧ host.handle = some handle

variable {library : Library} {limit id : Nat} {registry : Registry} {node : Node}
  {document : Document} {tag : String} {host : Host}

private theorem materialized_mem_iff {handle : Option Handle} :
    .materialized tag id handle ∈ (node.render library limit registry).steps ↔
      ∃ attributes, node.Materializes library limit registry id ⟨tag, attributes, handle⟩ := by
  rw [steps_render, Visits.materialized_mem_steps_iff]
  constructor
  · intro met
    obtain ⟨left, view, attributes, children, visit, valid⟩ := met
    exact ⟨attributes, .intro visit valid⟩
  · intro materialized
    obtain ⟨attributes, ⟨visit, valid⟩⟩ := materialized
    exact ⟨_, _, attributes, _, visit, valid⟩

private theorem carries_iff {handle : Handle} :
    node.Carries library limit registry handle id ↔
      ∃ tag, .materialized tag id (some handle) ∈ (node.render library limit registry).steps := by
  simp only [materialized_mem_iff]
  constructor
  · intro carried
    obtain ⟨⟨tag, attributes, _⟩, made, rfl⟩ := carried
    exact ⟨tag, attributes, made⟩
  · intro recorded
    obtain ⟨tag, attributes, made⟩ := recorded
    exact ⟨_, made, rfl⟩

private theorem find?_of_materializes
    (rendered : (node.render library limit registry).result = .ok document)
    (made : node.Materializes library limit registry id host) :
    ∃ children, document.find? id = some (.element id host.tag host.attributes children) := by
  obtain ⟨steps, final, expansion⟩ := expands_of_render rendered
  obtain ⟨visit, valid⟩ := made
  obtain ⟨_, _, _, reached, part⟩ := visit.expands expansion
  obtain ⟨_, inner, -, -, -, rfl⟩ := Expands.host_iff.mp reached
  exact ⟨inner, expansion.findAll?_of_mem (part List.mem_cons_self) rfl⟩

private theorem lt_length_iff_materializes
    (rendered : (node.render library limit registry).result = .ok document) :
    id < document.elements.length ↔
      ∃ host, node.Materializes library limit registry id host := by
  obtain ⟨steps, final, expansion⟩ := expands_of_render rendered
  have given : id < document.elements.length ↔ id ∈ steps.filterMap Step.id? := by
    rw [expansion.filterMap_id?_steps, List.mem_range'_1, Nat.zero_add]
    exact ⟨fun inside => ⟨Nat.zero_le id, inside⟩, And.right⟩
  rw [given, ← (render_of_expands expansion).2]
  simp only [List.mem_filterMap, Step.id?_eq_some_iff]
  constructor
  · intro given
    obtain ⟨_, made, tag, handle, rfl⟩ := given
    obtain ⟨attributes, made⟩ := materialized_mem_iff.mp made
    exact ⟨_, made⟩
  · intro materialized
    obtain ⟨⟨tag, attributes, handle⟩, made⟩ := materialized
    exact ⟨_, materialized_mem_iff.mpr ⟨attributes, made⟩, tag, handle, rfl⟩

private theorem Materializes.unique
    (rendered : (node.render library limit registry).result = .ok document) {other : Host}
    (made : node.Materializes library limit registry id host)
    (madeOther : node.Materializes library limit registry id other) : other = host := by
  obtain ⟨tag, attributes, handle⟩ := host
  obtain ⟨tag', attributes', handle'⟩ := other
  obtain ⟨_, found⟩ := find?_of_materializes rendered made
  obtain ⟨_, foundOther⟩ := find?_of_materializes rendered madeOther
  cases found.symm.trans foundOther
  obtain ⟨steps, final, expansion⟩ := expands_of_render rendered
  have first := materialized_mem_iff.mpr ⟨attributes, made⟩
  have second := materialized_mem_iff.mpr ⟨attributes, madeOther⟩
  rw [(render_of_expands expansion).2] at first second
  cases expansion.eq_of_id? first second rfl rfl
  rfl

/-- Handles end on the right element. The elements of a rendered document are the host elements
that came into being, each under the id that finds it; a handle that some of these carried is
attached to the last of them, whatever it was attached to before, and every other handle is left as
it was. -/
theorem render_attaches_to_last_carrier
    (rendered : (node.render library limit registry).result = .ok document) (before : Handles)
    (handle : Handle) :
    ((∀ id, id < document.elements.length ↔
        ∃ host, node.Materializes library limit registry id host) ∧
      ∀ id host, node.Materializes library limit registry id host →
        (∀ other, node.Materializes library limit registry id other → other = host) ∧
        ∃ children, document.find? id = some (.element id host.tag host.attributes children)) ∧
    (∀ id, node.Carries library limit registry handle id →
      ∃ last, (node.render library limit registry).handles before handle = some last ∧
        node.Carries library limit registry handle last ∧
        ∀ other, node.Carries library limit registry handle other → other ≤ last) ∧
    ((∀ id, ¬ node.Carries library limit registry handle id) →
      (node.render library limit registry).handles before handle = before handle) := by
  refine ⟨⟨fun id => lt_length_iff_materializes rendered, ?_⟩, ?_, ?_⟩
  · intro id host made
    exact ⟨fun other madeOther => made.unique rendered madeOther,
      find?_of_materializes rendered made⟩
  · intro id carried
    obtain ⟨tag, made⟩ := carries_iff.mp carried
    obtain ⟨earlier, tag, last, later, split, apart, kept⟩ :=
      Handles.follow_of_attaches ⟨_, made, .intro⟩
    obtain ⟨steps, final, expansion⟩ := expands_of_render rendered
    have increasing := expansion.pairwise_ids
    refine ⟨last, kept before, carries_iff.mpr ⟨tag, by simp [split]⟩, ?_⟩
    intro other carriedToo
    obtain ⟨tag', madeToo⟩ := carries_iff.mp carriedToo
    rw [split] at madeToo
    rw [← (render_of_expands expansion).2, split] at increasing
    rcases List.mem_append.mp madeToo with sooner | madeToo
    · obtain ⟨-, -, ordered⟩ := List.pairwise_append.mp increasing
      exact Nat.le_of_lt (ordered _ sooner _ List.mem_cons_self _ rfl _ rfl)
    · rcases List.mem_cons.mp madeToo with same | afterwards
      · cases same
        exact Nat.le_refl _
      · exact absurd .intro (apart _ afterwards)
  · intro none
    apply Handles.follow_of_not_attaches
    intro step made attaches
    cases attaches
    exact none _ (carries_iff.mpr ⟨_, made⟩)

def doubledHandle : Node :=
  .element (.direct (.custom 0)) ∅
    [.host "p" ∅ [.element (.named ⟨"b"⟩) ∅ [] none] (some ⟨"paragraph"⟩)] none

theorem render_attaches_doubledHandle :
    (doubledHandle.render .doubling 4 ∅).result = .ok doubledDocument ∧
      doubledHandle.Materializes .doubling 4 ∅ 1 ⟨"b", ∅, none⟩ ∧
      (∃ children, doubledDocument.find? 1 = some (.element 1 "b" ∅ children)) ∧
      (∃ last, (doubledHandle.render .doubling 4 ∅).handles (fun _ => some 7) ⟨"paragraph"⟩ =
          some last ∧
        doubledHandle.Carries .doubling 4 ∅ ⟨"paragraph"⟩ last ∧
        ∀ other, doubledHandle.Carries .doubling 4 ∅ ⟨"paragraph"⟩ other → other ≤ last) ∧
      (doubledHandle.render .doubling 4 ∅).handles (fun _ => some 7) ⟨"elsewhere"⟩ = some 7 := by
  have rendered : (doubledHandle.render .doubling 4 ∅).result = .ok doubledDocument := rfl
  have inner : doubledHandle.Materializes .doubling 4 ∅ 1 ⟨"b", ∅, none⟩ :=
    .intro (.opened (.element rfl) (.opened .fragment (.opened (.host rfl)
      (.opened (.element rfl) .here)))) rfl
  have outer : doubledHandle.Materializes .doubling 4 ∅ 0 ⟨"p", ∅, some ⟨"paragraph"⟩⟩ :=
    .intro (.opened (.element rfl) (.opened .fragment .here)) rfl
  have absent : ∀ id, ¬ doubledHandle.Carries .doubling 4 ∅ ⟨"elsewhere"⟩ id := by
    intro id carried
    obtain ⟨tag, made⟩ := carries_iff.mp carried
    obtain ⟨_, _, _, _, -, -, kept⟩ := Handles.follow_of_attaches ⟨_, made, .intro⟩
    have untouched : (doubledHandle.render .doubling 4 ∅).handles .empty ⟨"elsewhere"⟩ = none := rfl
    cases untouched.symm.trans (kept .empty)
  exact ⟨rendered, inner,
    ((render_attaches_to_last_carrier rendered .empty ⟨"elsewhere"⟩).1.2 _ _ inner).2,
    (render_attaches_to_last_carrier rendered _ _).2.1 0 ⟨_, outer, rfl⟩,
    (render_attaches_to_last_carrier rendered _ _).2.2 absent⟩

end Node
end Quire
