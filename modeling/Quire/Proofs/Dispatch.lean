import Quire.Proofs.Bags
import Quire.Proofs.Resolution

set_option autoImplicit false

/-!
Dispatching an element calls the component that resolving its reference gives.

An element is resolved with its own registry merged over the one in view, under its type hint or its
own name. Hence an element with a registry of its own is called as the same element without it would
be below a provider of that registry; all that is left of the registry is a last property.
-/

namespace Quire

/-- What dispatching comes to when it calls a component with an invocation, or fails before that. -/
def Library.answer (library : Library) :
    Except RenderError (Component × Invocation) → Expansion Node
  | .ok (component, invocation) => ⟨[.invoked component], library.invoke component invocation⟩
  | .error error => ⟨[], .error error⟩

/-- An invocation with a registry as its last property, if there is one. -/
def Invocation.supplied (invocation : Invocation) (own : Option Registry) : Invocation :=
  match own with
  | some registry =>
      { invocation with
        props := (invocation.props.erase (.named componentsKey)).insert componentsKey
          (.components registry) }
  | none => invocation

namespace Hints

variable {props : Props}

private theorem read_erase_components (props : Props) :
    read (props.erase (.named componentsKey)) = { read props with components := none } := by
  have parent : componentsKey ≠ parentKey := by decide
  have type : componentsKey ≠ typeKey := by decide
  simp [read, Props.getText?, Bag.get?_erase, Bag.get?_erase_of_ne parent,
    Bag.get?_erase_of_ne type]

end Hints

private theorem Props.Routable.erase_components {props : Props} (routable : props.Routable) :
    Props.Routable (props.erase (.named componentsKey)) := by
  refine ⟨?_, ?_, ?_⟩
  · intro value stored
    rw [Bag.get?_erase] at stored
    cases stored
  · intro value stored
    rw [Bag.get?_erase_of_ne (by decide)] at stored
    exact routable.parent value stored
  · intro value stored
    rw [Bag.get?_erase_of_ne (by decide)] at stored
    exact routable.type value stored

namespace Element

def hints (element : Element) : Hints :=
  .read element.props

def own (element : Element) : Registry :=
  element.hints.components.getD ∅

def handed (element : Element) : Invocation :=
  ⟨element.forwarded element.hints, element.children, element.handle⟩

theorem view_hints (element : Element) (registry : Registry) :
    element.hints.view registry = registry.merged element.own :=
  element.hints.view_eq_merged registry

def bare (element : Element) : Element :=
  { element with props := element.props.erase (.named componentsKey) }

variable {library : Library} {registry : Registry} {element : Element} {hints : Hints}

theorem dispatch_of_routable (routable : element.props.Routable) (library : Library)
    (registry : Registry) :
    element.dispatch library registry =
      library.answer ((element.component element.hints registry).map fun component =>
        (component, element.handed)) := by
  have hinted : Hints.ofProps element.props = .ok element.hints :=
    Hints.ofProps_eq_ok_iff.mpr ⟨routable, rfl⟩
  unfold dispatch
  rw [hinted]
  refine (Expansion.pure_bind _ _).trans ?_
  cases element.component element.hints registry with
  | error error => rfl
  | ok component => exact Expansion.pure_bind _ _

theorem component_of_direct {carried : Component} (direct : element.reference = .direct carried) :
    element.component hints registry =
      .ok ((hints.type.bind fun name =>
        (hints.view registry).lookup? name hints.parent).getD carried) := by
  obtain ⟨reference, props, children, handle⟩ := element
  cases direct
  unfold component
  cases hints.type with
  | none => rfl
  | some name =>
      cases found : (hints.view registry).lookup? name hints.parent with
      | none => simp [found, Reference.fallback]
      | some bound => simp [found]

private theorem component_bare (element : Element) (registry : Registry) :
    element.bare.component element.bare.hints (registry.merged element.own) =
      element.component element.hints registry := by
  have view : element.bare.hints.view (registry.merged element.own) =
      element.hints.view registry := by
    rw [Hints.view_eq_merged element.hints]
    simp [Element.hints, bare, Hints.read_erase_components, Hints.view, own]
  unfold component
  rw [view]
  simp only [Element.hints, bare, Hints.read_erase_components]

theorem entries_forwarded (element : Element) (hints : Hints) :
    (element.forwarded hints).entries =
      (element.props.entries.filter fun entry =>
        entry.enumerable && !routingKeys.contains entry.key.name) ++
        (hints.components.map fun own => ⟨.named componentsKey, .components own, true⟩).toList := by
  have absent : (element.props.without routingKeys).get? componentsKey = none :=
    Bag.get?_without (by decide)
  rw [← Bag.entries_filter, ← Bag.without]
  unfold forwarded
  cases hints.components with
  | none => exact (List.append_nil _).symm
  | some own => exact Bag.entries_insert absent (.components own)

private theorem handed_eq_supplied (element : Element) :
    element.handed = element.bare.handed.supplied element.hints.components := by
  have rest : element.bare.forwarded element.bare.hints = element.props.without routingKeys := by
    simp only [forwarded, Element.hints, bare, Hints.read_erase_components]
    exact Bag.without_erase (by decide) _
  have absent : (element.props.without routingKeys).get? componentsKey = none :=
    Bag.get?_without (by decide)
  unfold handed Invocation.supplied
  rw [rest]
  cases own : element.hints.components with
  | none =>
      simp only [forwarded, own]
      rfl
  | some registry =>
      simp only [forwarded, own, Bag.erase_of_get?_eq_none absent]
      rfl

/-- Dispatching agrees with resolving and with providers. An element under a name calls what its name,
or its type hint, is resolved to with its own registry merged over the one in view, and fails as
resolving does. An element that carries its component calls what its type hint is bound to, and
otherwise the component itself, but never a plain host element. Either way the call is the one that
the element makes below a provider of its own registry when it does not bring it along, up to the
registry as the last property. -/
theorem dispatch_agrees_with_resolve {element : Element} (routable : element.props.Routable)
    (registry : Registry) :
    (∀ library name, element.reference = .named name →
      element.dispatch library registry =
        library.answer (((registry.merged element.own).resolve
          (.named (element.hints.type.getD name)) element.hints.parent).map fun component =>
            (component, element.handed))) ∧
    (∀ library carried, element.reference = .direct carried →
      (element.hints.type = none →
        element.dispatch library registry = library.answer (.ok (carried, element.handed))) ∧
      ∀ name, element.hints.type = some name →
        element.dispatch library registry =
          library.answer (.ok
            ((((element.hints.parent.bind fun parent =>
              (registry.merged element.own).find? (parent.qualify name)).or
                ((registry.merged element.own).find? name)).or (Builtin.find? name)).getD carried,
            element.handed))) ∧
    ∃ call, ∀ library,
      element.bare.dispatch library ((Overrides.map element.own).view registry) =
        library.answer call ∧
      element.dispatch library registry =
        library.answer (call.map fun called =>
          (called.1, called.2.supplied element.hints.components)) := by
  have view : element.hints.view registry = registry.merged element.own :=
    element.hints.view_eq_merged registry
  refine ⟨?_, ?_, ?_⟩
  · intro library name named
    rw [dispatch_of_routable routable, component_of_named named, view]
  · intro library carried direct
    rw [dispatch_of_routable routable, component_of_direct direct, view]
    constructor
    · intro unhinted
      rw [unhinted]
      rfl
    · intro name hinted
      rw [hinted]
      rfl
  · refine ⟨(element.component element.hints registry).map fun component =>
      (component, element.bare.handed), fun library => ⟨?_, ?_⟩⟩
    · rw [dispatch_of_routable routable.erase_components, Overrides.view_map, component_bare]
    · rw [dispatch_of_routable routable, handed_eq_supplied]
      cases element.component element.hints registry <;> rfl

def ownNotes : Registry :=
  Registry.empty.insert ⟨"p.Note"⟩ (.custom 0)

def rootNotes : Registry :=
  Registry.empty.insert ⟨"Note"⟩ (.builtin ⟨"em"⟩)

def aside (reference : Reference) : Element where
  reference := reference
  props := ((Bag.ofList [(typeKey, .text "Note"), (componentsKey, .components ownNotes),
    ("id", .text "n1")]).insertHidden (.named parentKey) (.text "p")).insertSymbol componentsKey .null
  children := [.text "see below"]
  handle := none

private theorem routable_aside (reference : Reference) : (aside reference).props.Routable := by
  refine ⟨?_, ?_, ?_⟩
  · intro value stored
    cases stored
    exact .inr ⟨ownNotes, rfl⟩
  · intro value stored
    cases stored
    exact .inr ⟨"p", rfl⟩
  · intro value stored
    cases stored
    exact .inr ⟨"Note", rfl⟩

theorem dispatch_agrees_aside :
    (∀ reference, (aside reference).props.Routable) ∧
      (∀ library, (aside (.named ⟨"Aside"⟩)).dispatch library rootNotes =
        library.answer (.ok (.custom 0, (aside (.named ⟨"Aside"⟩)).handed))) ∧
      (∀ library, (aside (.direct (.builtin ⟨"sup"⟩))).dispatch library ∅ =
        library.answer (.ok (.custom 0, (aside (.direct (.builtin ⟨"sup"⟩))).handed))) ∧
      ∃ call, ∀ library, (aside (.named ⟨"Aside"⟩)).bare.dispatch library
          ((Overrides.map ownNotes).view rootNotes) = library.answer call ∧
        (aside (.named ⟨"Aside"⟩)).dispatch library rootNotes =
          library.answer (call.map fun called => (called.1, called.2.supplied (some ownNotes))) := by
  obtain ⟨named, -, below⟩ :=
    dispatch_agrees_with_resolve (routable_aside (.named ⟨"Aside"⟩)) rootNotes
  obtain ⟨-, direct, -⟩ :=
    dispatch_agrees_with_resolve (routable_aside (.direct (.builtin ⟨"sup"⟩))) ∅
  exact ⟨routable_aside, fun library => named library ⟨"Aside"⟩ rfl,
    fun library => (direct library (.builtin ⟨"sup"⟩) rfl).2 ⟨"Note"⟩ rfl, below⟩

end Element
end Quire
