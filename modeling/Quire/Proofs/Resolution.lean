import Quire.Proofs.Expansion
import Quire.Proofs.Registries

set_option autoImplicit false

/-!
What looking a name up and dispatching an element can come to.

A look-up only ever gives a component that the registry binds or a built-in one, and dispatching an
element that succeeds has read its hints, found its component and invoked it, in this order.
-/

namespace Quire

namespace Registry

variable {accept : Component → Prop} {registry : Registry}

theorem All.lookup? (all : registry.All accept)
    (builtin : ∀ {name component}, Builtin.find? name = some component → accept component)
    {name : Name} {parent : Option Name} {component : Component}
    (found : registry.lookup? name parent = some component) : accept component := by
  rcases Option.or_eq_some_iff.mp found with bound | ⟨-, default⟩
  · rcases Option.or_eq_some_iff.mp bound with qualified | ⟨-, plain⟩
    · obtain ⟨outer, -, qualified⟩ := Option.bind_eq_some_iff.mp qualified
      exact all.find? qualified
    · exact all.find? plain
  · exact builtin default

theorem isSome_lookup? {name : Name} {parent : Option Name}
    (known : (registry.find? name).isSome ∨ (Builtin.find? name).isSome) :
    (registry.lookup? name parent).isSome := by
  rw [Registry.lookup?, Option.isSome_or, Option.isSome_or]
  rcases known with bound | builtin
  · rw [bound, Bool.or_true, Bool.true_or]
  · rw [builtin, Bool.or_true]

end Registry

/-- The routing properties of an element can be read: each is missing, null, or of its own kind. -/
structure Props.Routable (props : Props) : Prop where
  components : ∀ value, props.get? componentsKey = some value →
    value = .null ∨ ∃ own, value = .components own
  parent : ∀ value, props.get? parentKey = some value → value = .null ∨ ∃ name, value = .text name
  type : ∀ value, props.get? typeKey = some value → value = .null ∨ ∃ name, value = .text name

namespace Hints

def read (props : Props) : Hints where
  components := (props.get? componentsKey).bind Value.components?
  parent := (props.getText? parentKey).map Name.mk
  type := (props.getText? typeKey).map Name.mk

theorem registryOf_eq_ok_iff {props : Props} {key : String} {own : Option Registry} :
    registryOf props key = .ok own ↔
      (∀ value, props.get? key = some value →
        value = .null ∨ ∃ registry, value = .components registry) ∧
      own = (props.get? key).bind Value.components? := by
  unfold registryOf
  cases props.get? key with
  | none => simp [eq_comm]
  | some value => cases value <;> simp [Value.components?, eq_comm]

theorem nameOf_eq_ok_iff {props : Props} {key : String} {name : Option Name} :
    nameOf props key = .ok name ↔
      (∀ value, props.get? key = some value → value = .null ∨ ∃ text, value = .text text) ∧
      name = (props.getText? key).map Name.mk := by
  unfold nameOf Props.getText?
  cases props.get? key with
  | none => simp [eq_comm]
  | some value => cases value <;> simp [Value.text?, eq_comm]

theorem ofProps_eq_ok_iff {props : Props} {hints : Hints} :
    ofProps props = .ok hints ↔ props.Routable ∧ hints = read props := by
  constructor
  · intro succeeded
    unfold ofProps at succeeded
    cases components : registryOf props componentsKey with
    | error error => simp [components, bind, Except.bind] at succeeded
    | ok own =>
        cases parent : nameOf props parentKey with
        | error error => simp [components, parent, bind, Except.bind] at succeeded
        | ok outer =>
            cases type : nameOf props typeKey with
            | error error => simp [components, parent, type, bind, Except.bind] at succeeded
            | ok name =>
                simp only [components, parent, type, bind, Except.bind, pure, Except.pure,
                  Except.ok.injEq] at succeeded
                subst succeeded
                obtain ⟨ownKind, rfl⟩ := registryOf_eq_ok_iff.mp components
                obtain ⟨outerKind, rfl⟩ := nameOf_eq_ok_iff.mp parent
                obtain ⟨nameKind, rfl⟩ := nameOf_eq_ok_iff.mp type
                exact ⟨⟨ownKind, outerKind, nameKind⟩, rfl⟩
  · rintro ⟨routable, rfl⟩
    have components := registryOf_eq_ok_iff.mpr ⟨routable.components, rfl⟩
    have parent := nameOf_eq_ok_iff.mpr ⟨routable.parent, rfl⟩
    have type := nameOf_eq_ok_iff.mpr ⟨routable.type, rfl⟩
    simp only [ofProps, components, parent, type, bind, Except.bind, pure, Except.pure, read]

theorem registryOf_eq_error {props : Props} {key : String} {error : RenderError}
    (failed : registryOf props key = .error error) : error = .invalidReference key := by
  unfold registryOf at failed
  split at failed <;> cases failed
  rfl

theorem nameOf_eq_error {props : Props} {key : String} {error : RenderError}
    (failed : nameOf props key = .error error) : error = .invalidReference key := by
  unfold nameOf at failed
  split at failed <;> cases failed
  rfl

theorem ofProps_eq_error {props : Props} {error : RenderError}
    (failed : ofProps props = .error error) : ∃ key, error = .invalidReference key := by
  unfold ofProps at failed
  cases components : registryOf props componentsKey with
  | error other =>
      simp only [components, bind, Except.bind, Except.error.injEq] at failed
      exact ⟨componentsKey, failed ▸ registryOf_eq_error components⟩
  | ok own =>
      cases parent : nameOf props parentKey with
      | error other =>
          simp only [components, parent, bind, Except.bind, Except.error.injEq] at failed
          exact ⟨parentKey, failed ▸ nameOf_eq_error parent⟩
      | ok outer =>
          cases type : nameOf props typeKey with
          | error other =>
              simp only [components, parent, type, bind, Except.bind, Except.error.injEq] at failed
              exact ⟨typeKey, failed ▸ nameOf_eq_error type⟩
          | ok name => simp [components, parent, type, bind, Except.bind, pure, Except.pure] at failed

end Hints

/-- Whatever is found without a registry is accepted: built-in components, and the plain host
elements of lowercase tags. -/
structure Component.AcceptsStandard (accept : Component → Prop) : Prop where
  builtin : ∀ {name component}, Builtin.find? name = some component → accept component
  plain : ∀ {name component}, Component.plain? name = some component → accept component

namespace Element

variable {library : Library} {registry : Registry} {element : Element} {hints : Hints}

theorem component_cases {component : Component}
    (found : element.component hints registry = .ok component) :
    (∃ name, (hints.view registry).lookup? name hints.parent = some component) ∨
      element.reference = .direct component ∨ ∃ name, Component.plain? name = some component := by
  obtain ⟨reference, props, children, handle⟩ := element
  unfold Element.component at found
  cases named : hints.type.or reference.name? with
  | none =>
      simp only [named] at found
      cases reference with
      | named name => simp [Reference.name?] at named
      | direct carried =>
          cases found
          exact .inr (.inl rfl)
  | some name =>
      simp only [named] at found
      cases looked : (hints.view registry).lookup? name hints.parent with
      | some bound =>
          simp only [looked] at found
          cases found
          exact .inl ⟨name, looked⟩
      | none =>
          simp only [looked] at found
          cases reference with
          | direct carried =>
              cases found
              exact .inr (.inl rfl)
          | named own =>
              simp only [Reference.fallback] at found
              cases plain : Component.plain? name with
              | none => simp [plain] at found
              | some host =>
                  simp only [plain] at found
                  cases found
                  exact .inr (.inr ⟨name, plain⟩)

theorem accepts_component {accept : Component → Prop} {component : Component}
    (standard : Component.AcceptsStandard accept) (view : (hints.view registry).All accept)
    (direct : ∀ carried, element.reference = .direct carried → accept carried)
    (found : element.component hints registry = .ok component) : accept component := by
  rcases component_cases found with ⟨name, looked⟩ | carried | ⟨name, plain⟩
  · exact view.lookup? standard.builtin looked
  · exact direct component carried
  · exact standard.plain plain

end Element

/-- An own registry without bindings is passed over, which makes no difference. -/
theorem Hints.view_eq_merged (hints : Hints) (registry : Registry) :
    hints.view registry = registry.merged (hints.components.getD ∅) := by
  unfold view
  cases hints.components with
  | none => exact (Registry.merged_of_isEmpty registry rfl).symm
  | some own =>
      cases vacant : own.isEmpty with
      | false => simp [vacant]
      | true => simp [vacant, Registry.merged_of_isEmpty registry vacant]

/-- A component is found under a name wherever the bindings of `registry` are in view. -/
def Registry.Knows (registry : Registry) (name : Name) : Prop :=
  (registry.find? name).isSome ∨ (Builtin.find? name).isSome ∨ Tag.isLowercase name.text = true

theorem Registry.Knows.merged {base overrides : Registry} {name : Name} (known : base.Knows name) :
    (base.merged overrides).Knows name :=
  known.imp_left isSome_find?_merged

theorem Registry.Knows.view {registry : Registry} {name : Name} (known : registry.Knows name)
    (hints : Hints) : (hints.view registry).Knows name := by
  rw [hints.view_eq_merged]
  exact known.merged

theorem Registry.resolve_named_cases (registry : Registry) (name : Name) (parent : Option Name) :
    (∃ component, registry.resolve (.named name) parent = .ok component) ∨
      (registry.resolve (.named name) parent = .error (.unresolved name) ∧
        ¬ registry.Knows name) := by
  cases found : registry.lookup? name parent with
  | some bound => exact .inl ⟨bound, by simp [resolve, found]⟩
  | none =>
      have unbound : ¬ (registry.lookup? name parent).isSome := by simp [found]
      cases lowercase : Tag.isLowercase name.text with
      | true =>
          exact .inl ⟨.plain name.text, by
            simp [resolve, found, Reference.fallback, Component.plain?, lowercase]⟩
      | false =>
          refine .inr ⟨by simp [resolve, found, Reference.fallback, Component.plain?, lowercase], ?_⟩
          rintro (bound | builtin | tag)
          · exact unbound (isSome_lookup? (.inl bound))
          · exact unbound (isSome_lookup? (.inr builtin))
          · rw [lowercase] at tag
            cases tag

namespace Element

variable {library : Library} {registry : Registry} {element : Element} {hints : Hints}

theorem component_of_named {own : Name} (named : element.reference = .named own) :
    element.component hints registry =
      (hints.view registry).resolve (.named (hints.type.getD own)) hints.parent := by
  obtain ⟨reference, props, children, handle⟩ := element
  cases named
  unfold Element.component
  cases hints.type with
  | none => rfl
  | some name => rfl

theorem exists_component_of_direct {carried : Component}
    (direct : element.reference = .direct carried) :
    ∃ component, element.component hints registry = .ok component := by
  obtain ⟨reference, props, children, handle⟩ := element
  cases direct
  unfold Element.component
  cases hints.type.or (Reference.direct carried).name? with
  | none => exact ⟨carried, rfl⟩
  | some name =>
      cases found : (hints.view registry).lookup? name hints.parent with
      | none => exact ⟨carried, by simp [found, Reference.fallback]⟩
      | some bound => exact ⟨bound, by simp [found]⟩

theorem exists_component
    (known : ∀ name, element.reference = .named name →
      (hints.view registry).Knows (hints.type.getD name)) :
    ∃ component, element.component hints registry = .ok component := by
  cases referred : element.reference with
  | direct carried => exact exists_component_of_direct referred
  | named own =>
      rw [component_of_named referred]
      rcases Registry.resolve_named_cases _ _ hints.parent with resolved | ⟨-, unknown⟩
      · exact resolved
      · exact False.elim (unknown (known own referred))

theorem component_eq_error {error : RenderError}
    (failed : element.component hints registry = .error error) :
    ∃ name, error = .unresolved name ∧ ¬ (hints.view registry).Knows name := by
  cases referred : element.reference with
  | direct carried =>
      obtain ⟨component, found⟩ : ∃ component, element.component hints registry = .ok component :=
        exists_component_of_direct referred
      rw [found] at failed
      cases failed
  | named own =>
      rw [component_of_named referred] at failed
      rcases Registry.resolve_named_cases (hints.view registry) (hints.type.getD own) hints.parent
        with ⟨component, resolved⟩ | ⟨unresolved, unknown⟩
      · rw [resolved] at failed
        cases failed
      · rw [unresolved] at failed
        cases failed
        exact ⟨_, rfl, unknown⟩

/-- Dispatching succeeds in three stages: the hints are read, the component is found, and it is
invoked. -/
theorem dispatch_eq_ok_iff {called : List Step} {rendered : Node} :
    element.dispatch library registry = ⟨called, .ok rendered⟩ ↔
      ∃ component, element.props.Routable ∧
        element.component (.read element.props) registry = .ok component ∧
        library.invoke component ⟨element.forwarded (.read element.props), element.children,
          element.handle⟩ = .ok rendered ∧
        called = [.invoked component] := by
  unfold dispatch
  simp only [Expansion.bind_eq_ok_iff, Expansion.ofResult_eq_ok_iff, Hints.ofProps_eq_ok_iff]
  constructor
  · rintro ⟨_, hints, _, ⟨rfl, routable, rfl⟩, ⟨_, component, _, ⟨rfl, found⟩, invocation, rfl⟩, rfl⟩
    obtain ⟨_, _, _, recorded, ⟨rfl, invoked⟩, rfl⟩ := invocation
    cases recorded
    exact ⟨component, routable, found, invoked, rfl⟩
  · rintro ⟨component, routable, found, invoked, rfl⟩
    refine ⟨[], .read element.props, _, ⟨rfl, routable, rfl⟩, ⟨[], component, _, ⟨rfl, found⟩, ?_, rfl⟩, rfl⟩
    exact ⟨_, (), [], rfl, ⟨rfl, invoked⟩, rfl⟩

theorem dispatch_result_error {error : RenderError}
    (failed : (element.dispatch library registry).result = .error error) :
    Hints.ofProps element.props = .error error ∨
      element.props.Routable ∧
        (element.component (.read element.props) registry = .error error ∨
          ∃ component, element.component (.read element.props) registry = .ok component ∧
            library.invoke component ⟨element.forwarded (.read element.props), element.children,
              element.handle⟩ = .error error) := by
  unfold dispatch at failed
  simp only [Expansion.result_bind, Expansion.ofResult, Expansion.record] at failed
  cases hinted : Hints.ofProps element.props with
  | error other =>
      rw [hinted] at failed
      cases failed
      exact .inl rfl
  | ok hints =>
      obtain ⟨routable, rfl⟩ := Hints.ofProps_eq_ok_iff.mp hinted
      rw [hinted] at failed
      refine .inr ⟨routable, ?_⟩
      cases found : element.component (.read element.props) registry with
      | error other =>
          simp only [bind, Except.bind, found] at failed
          cases failed
          exact .inl rfl
      | ok component =>
          simp only [bind, Except.bind, found] at failed
          exact .inr ⟨component, rfl, failed⟩

end Element
end Quire
