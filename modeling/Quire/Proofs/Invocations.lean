import Quire.Proofs.Dispatch

set_option autoImplicit false

/-!
How an element comes to its one invocation.

The routing properties are read first, in a fixed order, and the first malformed one is reported. Then
the component is chosen, and an element that has no choice is reported. Only after that a component
runs: the one chosen, once, on what the element gives beside its routing properties.
-/

namespace Quire

namespace Hints

def keys : List String := [componentsKey, parentKey, typeKey]

def admits (key : String) (value : Value) : Bool :=
  value.isNull || if key = componentsKey then value.components?.isSome else value.text?.isSome

end Hints

def Props.isMalformed (props : Props) (key : String) : Bool :=
  (props.get? key).any fun value => !Hints.admits key value

def Props.malformed? (props : Props) : Option String :=
  Hints.keys.find? props.isMalformed

namespace Hints

private theorem registryOf_eq (props : Props) :
    registryOf props componentsKey =
      if props.isMalformed componentsKey then .error (.invalidReference componentsKey)
      else .ok (read props).components := by
  unfold registryOf read Props.isMalformed
  cases props.get? componentsKey with
  | none => rfl
  | some value => cases value <;> rfl

private theorem nameOf_eq (props : Props) {key : String} (other : key ≠ componentsKey) :
    nameOf props key =
      if props.isMalformed key then .error (.invalidReference key)
      else .ok ((props.getText? key).map Name.mk) := by
  unfold nameOf Props.getText? Props.isMalformed
  cases props.get? key with
  | none => rfl
  | some value => cases value <;> simp [admits, other, Value.isNull, Value.text?]

private theorem ofProps_eq (props : Props) :
    ofProps props =
      match props.malformed? with
      | some key => .error (.invalidReference key)
      | none => .ok (read props) := by
  unfold ofProps Props.malformed? keys
  rw [registryOf_eq, nameOf_eq props (by decide), nameOf_eq props (by decide)]
  cases components : props.isMalformed componentsKey with
  | true => simp [components, bind, Except.bind]
  | false =>
      cases parent : props.isMalformed parentKey with
      | true => simp [components, parent, bind, Except.bind]
      | false =>
          cases type : props.isMalformed typeKey with
          | true => simp [components, parent, type, bind, Except.bind]
          | false => simp [components, parent, type, bind, Except.bind, pure, Except.pure, read]

end Hints

private theorem Props.routable_iff {props : Props} : props.Routable ↔ props.malformed? = none := by
  have read : Hints.ofProps props = .ok (.read props) ↔ props.Routable := by
    rw [Hints.ofProps_eq_ok_iff]
    exact and_iff_left rfl
  rw [← read, Hints.ofProps_eq]
  cases props.malformed? <;> simp

def Registry.candidates (registry : Registry) (name : Name) (context : Option Name) :
    List Component :=
  (context.bind fun parent => registry.find? (parent.qualify name)).toList ++
    (registry.find? name).toList ++ (Builtin.find? name).toList

private theorem Registry.head?_candidates (registry : Registry) (name : Name) (context : Option Name) :
    (registry.candidates name context).head? = registry.lookup? name context := by
  simp [Registry.candidates, Registry.lookup?, List.head?_append, Option.or_assoc]

namespace Element

/-- What an element can stand for, the first choice first. Without a match, an element under a name is
a plain host element if the name is a lowercase tag, and any other the component that it carries. -/
def choices (element : Element) (registry : Registry) : List Component :=
  let view := registry.merged element.own
  match element.reference with
  | .named own =>
      let name := element.hints.type.getD own
      view.candidates name element.hints.parent ++ (Component.plain? name).toList
  | .direct carried =>
      (element.hints.type.toList.flatMap fun name => view.candidates name element.hints.parent) ++
        [carried]

private theorem choices_of_named {element : Element} {own : Name} (named : element.reference = .named own)
    (registry : Registry) :
    (element.choices registry).head? =
      ((registry.merged element.own).lookup? (element.hints.type.getD own) element.hints.parent).or
        (Component.plain? (element.hints.type.getD own)) := by
  simp [choices, named, List.head?_append, Registry.head?_candidates]

private theorem choices_of_direct {element : Element} {carried : Component}
    (direct : element.reference = .direct carried) (registry : Registry) :
    (element.choices registry).head? =
      some ((element.hints.type.bind fun name =>
        (registry.merged element.own).lookup? name element.hints.parent).getD carried) := by
  simp only [choices, direct]
  cases element.hints.type with
  | none => rfl
  | some name => simp [List.head?_append, Registry.head?_candidates]

private theorem component_of_choice {element : Element} {registry : Registry} {component : Component}
    (first : (element.choices registry).head? = some component) :
    element.component element.hints registry = .ok component := by
  cases referred : element.reference with
  | direct carried =>
      rw [choices_of_direct referred] at first
      rw [component_of_direct referred, view_hints, Option.some.inj first]
  | named own =>
      rw [choices_of_named referred] at first
      rw [component_of_named referred, view_hints]
      rcases Option.or_eq_some_iff.mp first with found | ⟨unbound, plain⟩
      · simp [Registry.resolve, found]
      · simp [Registry.resolve, Reference.fallback, unbound, plain]

private theorem component_of_no_choice {element : Element} {registry : Registry}
    (unmatched : element.choices registry = []) :
    ∃ own, element.reference = .named own ∧
      element.component element.hints registry =
        .error (.unresolved (element.hints.type.getD own)) := by
  have first : (element.choices registry).head? = none := List.head?_eq_none_iff.mpr unmatched
  cases referred : element.reference with
  | direct carried =>
      rw [choices_of_direct referred] at first
      cases first
  | named own =>
      rw [choices_of_named referred] at first
      obtain ⟨unbound, unplain⟩ := Option.or_eq_none_iff.mp first
      refine ⟨own, rfl, ?_⟩
      rw [component_of_named referred, view_hints]
      simp [Registry.resolve, Reference.fallback, unbound, unplain]

private theorem dispatch_of_malformed {element : Element} {key : String}
    (malformed : element.props.malformed? = some key) (library : Library) (registry : Registry) :
    element.dispatch library registry = ⟨[], .error (.invalidReference key)⟩ := by
  unfold dispatch
  rw [Hints.ofProps_eq, malformed]
  rfl

private theorem dispatch_outcomes (element : Element) (registry : Registry) :
    (∃ key, element.props.malformed? = some key ∧
      ∀ library, element.dispatch library registry = ⟨[], .error (.invalidReference key)⟩) ∨
    (element.props.malformed? = none ∧ element.choices registry = [] ∧
      ∃ own, element.reference = .named own ∧ ∀ library, element.dispatch library registry =
        ⟨[], .error (.unresolved (element.hints.type.getD own))⟩) ∨
    element.props.malformed? = none ∧ ∃ component,
      (element.choices registry).head? = some component ∧ ∀ library,
        element.dispatch library registry =
          ⟨[.invoked component], library.invoke component element.handed⟩ := by
  cases read : element.props.malformed? with
  | some key => exact .inl ⟨key, rfl, fun library => dispatch_of_malformed read library registry⟩
  | none =>
      have routable := Props.routable_iff.mpr read
      refine .inr ?_
      cases chosen : (element.choices registry).head? with
      | none =>
          have unmatched := List.head?_eq_none_iff.mp chosen
          obtain ⟨own, named, unresolved⟩ := component_of_no_choice unmatched
          refine .inl ⟨rfl, unmatched, own, named, fun library => ?_⟩
          rw [dispatch_of_routable routable, unresolved]
          rfl
      | some component =>
          refine .inr ⟨rfl, component, rfl, fun library => ?_⟩
          rw [dispatch_of_routable routable, component_of_choice chosen]
          rfl

/-- Before anything is invoked, dispatching reports the first malformed routing property, in the order
in which they are read, and after that a name without any match. Otherwise the first choice is invoked
once, with the children and the handle of the element and with what it shows apart from its routing
properties, after which comes the registry that it brings along, if any. Whatever fails later fails in
the component. -/
theorem dispatch_reports_or_invokes_once (element : Element) (registry : Registry) :
    (∀ library key, element.dispatch library registry = ⟨[], .error (.invalidReference key)⟩ ↔
      element.props.malformed? = some key) ∧
    (∀ library name, element.dispatch library registry = ⟨[], .error (.unresolved name)⟩ ↔
      element.props.malformed? = none ∧ element.choices registry = [] ∧
        ∃ own, element.reference = .named own ∧ name = element.hints.type.getD own) ∧
    (element.props.malformed? = none → element.choices registry ≠ [] →
      ∃ component invocation, (element.choices registry).head? = some component ∧
        invocation.children = element.children ∧ invocation.handle = element.handle ∧
        invocation.props.entries =
          (element.props.entries.filter fun entry =>
            entry.enumerable && !routingKeys.contains entry.key.name) ++
          (element.hints.components.map fun own =>
            ⟨.named componentsKey, .components own, true⟩).toList ∧
        ∀ library, element.dispatch library registry =
          ⟨[.invoked component], library.invoke component invocation⟩) := by
  refine ⟨?_, ?_, ?_⟩
  · intro library key
    rcases element.dispatch_outcomes registry with ⟨other, malformed, reported⟩ |
      ⟨read, -, own, -, reported⟩ | ⟨read, component, -, invoked⟩
    · simp [malformed, reported, eq_comm]
    · simp [read, reported]
    · simp [read, invoked]
  · intro library name
    rcases element.dispatch_outcomes registry with ⟨key, malformed, reported⟩ |
      ⟨read, unmatched, own, named, reported⟩ | ⟨read, component, chosen, invoked⟩
    · simp [malformed, reported]
    · simp [read, unmatched, named, reported, eq_comm]
    · have matched : element.choices registry ≠ [] := by
        intro unmatched
        rw [unmatched] at chosen
        cases chosen
      simp [invoked, matched]
  · intro read matched
    rcases element.dispatch_outcomes registry with ⟨key, malformed, -⟩ | ⟨-, unmatched, -⟩ |
      ⟨-, component, chosen, invoked⟩
    · rw [read] at malformed
      cases malformed
    · exact False.elim (matched unmatched)
    · exact ⟨component, element.handed, chosen, rfl, rfl, element.entries_forwarded _, invoked⟩

def confusedAside : Element :=
  let aside := aside (.named ⟨"Aside"⟩)
  let props := aside.props.insert typeKey (.bool true)
  { aside with props := props.insertHidden (.named parentKey) (.list []) }

theorem dispatch_reports_or_invokes_aside :
    (∀ library, confusedAside.dispatch library rootNotes =
      ⟨[], .error (.invalidReference parentKey)⟩) ∧
    (aside (.named ⟨"Aside"⟩)).props.malformed? = none ∧
    (aside (.named ⟨"Aside"⟩)).choices rootNotes ≠ [] ∧
    ∃ invocation, invocation.children = [.text "see below"] ∧ invocation.handle = none ∧
      invocation.props.entries = [⟨.named "id", .text "n1", true⟩,
        ⟨.named componentsKey, .components ownNotes, true⟩] ∧
      ∀ library, (aside (.named ⟨"Aside"⟩)).dispatch library rootNotes =
        ⟨[.invoked (.custom 0)], library.invoke (.custom 0) invocation⟩ := by
  obtain ⟨reports, -, -⟩ := dispatch_reports_or_invokes_once confusedAside rootNotes
  obtain ⟨-, -, invokes⟩ := dispatch_reports_or_invokes_once (aside (.named ⟨"Aside"⟩)) rootNotes
  have read : (aside (.named ⟨"Aside"⟩)).props.malformed? = none := rfl
  have choices : (aside (.named ⟨"Aside"⟩)).choices rootNotes =
      [.custom 0, .builtin ⟨"em"⟩] := rfl
  have matched : (aside (.named ⟨"Aside"⟩)).choices rootNotes ≠ [] := by
    rw [choices]
    exact List.cons_ne_nil _ _
  obtain ⟨component, invocation, chosen, children, handle, entries, invoked⟩ := invokes read matched
  rw [choices] at chosen
  cases chosen
  exact ⟨fun library => (reports library parentKey).mpr rfl, read, matched, invocation, children,
    handle, entries, invoked⟩

end Element
end Quire
