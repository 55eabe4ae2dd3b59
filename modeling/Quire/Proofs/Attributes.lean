import Quire.Proofs.Bags
import Quire.Proofs.Markup.NormalForm
import Quire.Proofs.PlainComponents

set_option autoImplicit false

/-!
Where the attributes of rendered elements come from.

Merging and forwarding only pass entries on. Where every component is plain, an attribute of a
rendered element was therefore given by a host node, by an element, or by the default attributes of
a component.
-/

namespace Quire

theorem Element.mem_forwarded {element : Element} {hints : Hints} {entry : Entry Value}
    (member : entry ∈ (element.forwarded hints).entries) :
    (entry ∈ element.props.entries ∧ entry.enumerable = true ∧ entry.key.name ∉ routingKeys) ∨
      ∃ own, hints.components = some own ∧
        entry = ⟨.named componentsKey, .components own, true⟩ := by
  unfold Element.forwarded at member
  cases carried : hints.components with
  | none =>
      simp only [carried] at member
      exact .inl (Bag.mem_without member)
  | some own =>
      simp only [carried] at member
      rcases Bag.mem_put member with rfl | rest
      · exact .inr ⟨own, rfl, rfl⟩
      · exact .inl (Bag.mem_without rest)

def Tree.attributes {ι : Type} : Tree ι → Props
  | .text _ => ∅
  | .element _ _ attributes _ => attributes

namespace Node

def Gives (accept : Entry Value → Prop) : Node → Prop
  | .host _ attributes _ _ => ∀ entry ∈ attributes.entries, accept entry
  | .element reference props children handle =>
      ∀ entry ∈ (Element.forwarded ⟨reference, props, children, handle⟩ (.read props)).entries,
        accept entry
  | _ => True

theorem Gives.hosted {accept : Entry Value → Prop} {reference : Reference} {props : Props}
    {children : List Node} {handle : Option Handle} {tag : String} {attributes : Props}
    (given : (Node.element reference props children handle).Gives accept)
    (defaults : ∀ entry ∈ attributes.entries, entry.enumerable = true → accept entry) :
    (Element.hosted ⟨reference, props, children, handle⟩ tag attributes).Gives accept := by
  intro entry member
  obtain ⟨enumerable, -, source, listed, held⟩ := Bag.mem_mergeKeys member
  rcases List.mem_cons.mp listed with same | later
  · cases same
    exact defaults entry held enumerable
  · cases List.mem_singleton.mp later
    exact given entry held

end Node

namespace Expands

variable {library : Library} {accept : Entry Value → Prop} {budget next final : Nat}
  {registry : Registry} {nodes : List Node} {steps : List Step} {trees : List (Tree Nat)}

/-- If default attributes and nodes only give entries that satisfy a predicate, so do all attributes
of the elements that a pass makes. -/
theorem forall_attributes
    (expansion : Expands library budget registry next nodes steps trees final)
    (confined : ∀ node ∈ nodes, node.Confined (library.Plain fun _ attributes =>
      ∀ entry ∈ attributes.entries, entry.enumerable = true → accept entry) registry)
    (given : ∀ node ∈ nodes, node.Throughout (fun _ node => node.Gives accept) registry) :
    ∀ element ∈ Tree.elementsAll trees, ∀ entry ∈ element.attributes.entries, accept entry := by
  induction expansion with
  | nil => exact nofun
  | empty _ ih | text _ ih | number _ ih =>
      exact ih (List.forall_mem_cons.mp confined).2 (List.forall_mem_cons.mp given).2
  | fragment _ _ childrenIH restIH | provider _ _ childrenIH restIH =>
      obtain ⟨first, others⟩ := List.forall_mem_cons.mp confined
      obtain ⟨givenFirst, givenOthers⟩ := List.forall_mem_cons.mp given
      rw [Tree.elementsAll_append]
      exact List.forall_mem_append.mpr
        ⟨childrenIH first.child givenFirst.child, restIH others givenOthers⟩
  | host _ _ _ childrenIH restIH =>
      obtain ⟨first, others⟩ := List.forall_mem_cons.mp confined
      obtain ⟨givenFirst, givenOthers⟩ := List.forall_mem_cons.mp given
      refine List.forall_mem_append.mpr ⟨List.forall_mem_cons.mpr ⟨?_, ?_⟩, ?_⟩
      · exact givenFirst.here
      · exact childrenIH first.child givenFirst.child
      · exact restIH others givenOthers
  | element dispatched _ _ renderedIH restIH =>
      obtain ⟨first, others⟩ := List.forall_mem_cons.mp confined
      obtain ⟨givenFirst, givenOthers⟩ := List.forall_mem_cons.mp given
      have inner := renderedIH
        (List.forall_mem_singleton.mpr (first.rendered (fun _ _ => nofun) dispatched))
      rw [Tree.elementsAll_append]
      refine List.forall_mem_append.mpr ⟨inner (List.forall_mem_singleton.mpr ?_), ?_⟩
      · rcases first.dispatch_cases (fun _ _ => nofun) dispatched with
          rfl | ⟨tag, attributes, defaults, rfl⟩
        · exact .intro trivial givenFirst.child
        · exact .intro (givenFirst.here.hosted defaults) givenFirst.child
      · exact restIH others givenOthers

end Expands

theorem Html.mem_attributes {props : Props} {written : Attribute}
    (member : written ∈ attributes props) :
    ∃ name value, ⟨.named name, value, true⟩ ∈ props.entries ∧
      Attribute.ofProperty? name value = some written ∧ written.name = attributeName name := by
  obtain ⟨⟨name, value⟩, kept, made⟩ := List.mem_filterMap.mp member
  have held := Bag.mem_named.mp (List.mem_filter.mp kept).1
  exact ⟨name, value, held, made, Attribute.name_ofProperty? made⟩

def Html.WellNamed (entry : Entry Value) : Prop :=
  entry.enumerable = true → ∀ name, entry.key = .named name → isAttributeName name = true

theorem Html.malformed_eq_nil_iff {props : Props} :
    malformed props = [] ↔ ∀ entry ∈ props.entries, WellNamed entry := by
  simp only [malformed, Bag.named, List.filter_eq_nil_iff, List.mem_map, List.mem_filterMap]
  constructor
  · intro none entry member enumerable name named
    have := none name ⟨(name, entry.value), ⟨entry, member, by simp [named, enumerable]⟩, rfl⟩
    simpa using this
  · rintro named name ⟨⟨_, value⟩, ⟨entry, member, shown⟩, rfl⟩
    cases key : entry.key with
    | symbol other => simp [key] at shown
    | named other =>
        simp only [key, Option.ite_none_right_eq_some, Option.some.injEq, Prod.mk.injEq] at shown
        obtain ⟨enumerable, rfl, rfl⟩ := shown
        simpa using named entry member enumerable _ key

theorem Html.malformed_eq_nil_of_names {props : Props} (names : List String)
    (same : props.named.map Prod.fst = names) (formed : ∀ name ∈ names, isAttributeName name = true) :
    malformed props = [] := by
  apply List.filter_eq_nil_iff.mpr
  rw [same]
  intro name member
  simp [formed name member]

theorem Tree.malformedAttributesAll_eq_nil {ι : Type} {trees : List (Tree ι)}
    (named : ∀ element ∈ elementsAll trees, Html.malformed element.attributes = []) :
    malformedAttributesAll trees = [] := by
  induction trees using forestInduction with
  | nil => rfl
  | text content trees ih => exact ih named
  | element id tag attributes children trees childrenIH treesIH =>
      obtain ⟨inside, rest⟩ := List.forall_mem_append.mp named
      obtain ⟨own, inner⟩ := List.forall_mem_cons.mp inside
      have here : Html.malformed attributes = [] := own
      simp [malformedAttributesAll, malformedAttributes, here, childrenIH inner, treesIH rest]

end Quire
