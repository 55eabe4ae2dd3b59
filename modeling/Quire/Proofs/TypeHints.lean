import Quire.Proofs.Bags
import Quire.Proofs.Resolution
import Quire.Proofs.Simplification

set_option autoImplicit false

/-!
A name that is recorded as an element's own type hint changes nothing.

A compiled page writes the name of an element a second time, as its type hint. The hint is looked up
first and is not handed on, so that the element does what it would do without any hint, whatever
stood in the place of the hint before.
-/

namespace Quire

def Element.unhinted (name : Name) (props : Props) (children : List Node)
    (handle : Option Handle) : Element :=
  ⟨.named name, props.erase (.named typeKey), children, handle⟩

namespace Hints

private theorem ofProps_insert_type (props : Props) (name : Name) :
    ofProps (props.insert typeKey (.text name.text)) =
      (ofProps (props.erase (.named typeKey))).map fun hints => { hints with type := some name } := by
  have components : registryOf (props.insert typeKey (.text name.text)) componentsKey =
      registryOf (props.erase (.named typeKey)) componentsKey := by
    unfold registryOf
    rw [Bag.get?_insert_of_ne (by decide), Bag.get?_erase_of_ne (by decide)]
  have parent : nameOf (props.insert typeKey (.text name.text)) parentKey =
      nameOf (props.erase (.named typeKey)) parentKey := by
    unfold nameOf
    rw [Bag.get?_insert_of_ne (by decide), Bag.get?_erase_of_ne (by decide)]
  have hinted : nameOf (props.insert typeKey (.text name.text)) typeKey = .ok (some name) := by
    unfold nameOf
    rw [Bag.get?_insert, if_pos rfl]
  have absent : nameOf (props.erase (.named typeKey)) typeKey = .ok none := by
    unfold nameOf
    rw [Bag.get?_erase]
  unfold ofProps
  rw [components, parent, hinted, absent]
  cases registryOf (props.erase (.named typeKey)) componentsKey with
  | error error => rfl
  | ok own => cases nameOf (props.erase (.named typeKey)) parentKey <;> rfl

private theorem type_of_erase {props : Props} {hints : Hints}
    (read : ofProps (props.erase (.named typeKey)) = .ok hints) : hints.type = none := by
  obtain ⟨-, rfl⟩ := ofProps_eq_ok_iff.mp read
  simp [Hints.read, Props.getText?, Bag.get?_erase]

end Hints

namespace Element

variable {name : Name} {props : Props} {children : List Node} {handle : Option Handle}

private theorem component_typed {hints : Hints} (unhinted : hints.type = none) (registry : Registry) :
    (typed (.named name) props children handle).component { hints with type := some name } registry =
      (Element.unhinted name props children handle).component hints registry := by
  have named : (typed (.named name) props children handle).reference = .named name := rfl
  have plain : (Element.unhinted name props children handle).reference = .named name := rfl
  rw [component_of_named named, component_of_named plain, unhinted]
  rfl

private theorem forwarded_typed (hints : Hints) :
    (typed (.named name) props children handle).forwarded { hints with type := some name } =
      (Element.unhinted name props children handle).forwarded hints := by
  have rest : (props.insert typeKey (.text name.text)).without routingKeys =
      (props.erase (.named typeKey)).without routingKeys :=
    (Bag.without_insert (by decide) _).trans (Bag.without_erase (by decide) _).symm
  simp only [forwarded, typed, Element.unhinted, rest]

private theorem dispatch_typed_eq (name : Name) (props : Props) (children : List Node)
    (handle : Option Handle) (library : Library) (registry : Registry) :
    (typed (.named name) props children handle).dispatch library registry =
      (unhinted name props children handle).dispatch library registry := by
  have hinted : Hints.ofProps (typed (.named name) props children handle).props =
      (Hints.ofProps (unhinted name props children handle).props).map
        fun hints => { hints with type := some name } := Hints.ofProps_insert_type props name
  unfold dispatch
  rw [hinted]
  cases read : Hints.ofProps (unhinted name props children handle).props with
  | error error => rfl
  | ok hints =>
      refine (Expansion.pure_bind _ _).trans (Eq.trans ?_ (Expansion.pure_bind _ _).symm)
      rw [component_typed (Hints.type_of_erase read), forwarded_typed]
      rfl

end Element

/-- The nodes that take the place of others where elements under names lose their type hints, each of
them as it is or below fragments, providers and host nodes. -/
inductive LosesHints : List Node → List Node → Prop where
  | nil : LosesHints [] []
  | same {node nodes others} : LosesHints nodes others → LosesHints (node :: nodes) (node :: others)
  | element {name props children handle nodes others} :
      LosesHints nodes others →
      LosesHints (.ofElement (.typed (.named name) props children handle) :: nodes)
        (.ofElement (.unhinted name props children handle) :: others)
  | inside (frame : Frame) {children inner nodes others} :
      LosesHints children inner → LosesHints nodes others →
      LosesHints (frame.fill children :: nodes) (frame.fill inner :: others)

namespace Pass

private theorem concatMap_cons_congr {α β : Type} {expand : β → Pass (List α)} {item other : β}
    {items others : List β} (head : expand item = expand other)
    (tail : concatMap expand items = concatMap expand others) :
    concatMap expand (item :: items) = concatMap expand (other :: others) := by
  rw [concatMap, concatMap, head, tail]

end Pass

namespace Node

variable {library : Library} {limit : Nat}

private theorem expand_typed (name : Name) (props : Props) (children : List Node) (handle : Option Handle)
    (budget : Nat) (registry : Registry) :
    (ofElement (.typed (.named name) props children handle)).expand library limit budget registry =
      (ofElement (.unhinted name props children handle)).expand library limit budget registry := by
  cases budget with
  | zero => rfl
  | succ budget =>
      have dispatched := Element.dispatch_typed_eq name props children handle library registry
      simp only [Element.typed, Element.unhinted] at dispatched
      simp only [ofElement, Element.typed, Element.unhinted, expand, dispatched]

private theorem expand_fill_congr {children inner : List Node}
    (same : ∀ budget registry, Pass.concatMap (expand library limit budget registry) children =
      Pass.concatMap (expand library limit budget registry) inner) (frame : Frame) (budget : Nat)
    (registry : Registry) :
    (frame.fill children).expand library limit budget registry =
      (frame.fill inner).expand library limit budget registry := by
  cases budget with
  | zero => rfl
  | succ budget =>
      cases frame with
      | fragment => exact same budget registry
      | provider overrides => simp only [Frame.fill, expand, same]
      | host tag attributes handle => simp only [Frame.fill, expand, same]

end Node

private theorem LosesHints.concatMap_expand {nodes others : List Node} (loses : LosesHints nodes others)
    (library : Library) (limit budget : Nat) (registry : Registry) :
    Pass.concatMap (Node.expand library limit budget registry) nodes =
      Pass.concatMap (Node.expand library limit budget registry) others := by
  induction loses generalizing budget registry with
  | nil => rfl
  | same _ ih => exact Pass.concatMap_cons_congr rfl (ih budget registry)
  | element _ ih =>
      exact Pass.concatMap_cons_congr (Node.expand_typed _ _ _ _ budget registry)
        (ih budget registry)
  | inside frame _ _ childrenIH ih =>
      exact Pass.concatMap_cons_congr (Node.expand_fill_congr childrenIH frame budget registry)
        (ih budget registry)

namespace Node

private theorem render_of_losesHints {node other : Node} (loses : LosesHints [node] [other])
    (library : Library) (limit : Nat) (registry : Registry) :
    node.render library limit registry = other.render library limit registry := by
  have expanded := loses.concatMap_expand library (effectiveLimit limit) (effectiveLimit limit + 1)
    registry
  rw [Pass.concatMap_singleton, Pass.concatMap_singleton] at expanded
  simp only [render, expanded]

/-- A name need not be recorded as a type hint. The element that a compiled page writes for a name is
dispatched and rendered as the one without any hint, whatever stood in its place, and so it is anywhere
below fragments, providers and host nodes of a tree. The renderings are the same as a whole: the
document or the error, the steps, and with them where the handles end. -/
theorem render_without_type_hint (library : Library) (limit : Nat) (registry : Registry) :
    (∀ name props children handle,
      (Element.typed (.named name) props children handle).dispatch library registry =
        (Element.unhinted name props children handle).dispatch library registry ∧
      (ofElement (.typed (.named name) props children handle)).render library limit registry =
        (ofElement (.unhinted name props children handle)).render library limit registry) ∧
    ∀ node other, LosesHints [node] [other] →
      node.render library limit registry = other.render library limit registry ∧
      ∀ before, (node.render library limit registry).handles before =
        (other.render library limit registry).handles before := by
  constructor
  · intro name props children handle
    exact ⟨Element.dispatch_typed_eq name props children handle library registry,
      render_of_losesHints (.element .nil) library limit registry⟩
  · intro node other loses
    have same := render_of_losesHints loses library limit registry
    exact ⟨same, fun before => by rw [same]⟩

def markedParagraph (element : Element) : Node :=
  .provider (.map ∅) [.host "p" ∅ [.text "a ", .fragment [.ofElement element]] (some ⟨"words"⟩)]

def strayHint : Props :=
  Bag.empty.insertHidden (.named typeKey) (.bool true)

theorem render_without_type_hint_markedParagraph :
    LosesHints [markedParagraph (.typed (.named ⟨"b"⟩) strayHint [.text "word"] none)]
      [markedParagraph (.unhinted ⟨"b"⟩ strayHint [.text "word"] none)] ∧
    ((markedParagraph (.typed (.named ⟨"b"⟩) strayHint [.text "word"] none)).render .looping 5
      ∅).result = .ok [.element 0 "p" ∅ [.text "a ", .element 1 "b" ∅ [.text "word"]]] ∧
    ((markedParagraph (.typed (.named ⟨"b"⟩) strayHint [.text "word"] none)).render .looping 5
      ∅).handles .empty ⟨"words"⟩ = some 0 := by
  have loses : LosesHints [markedParagraph (.typed (.named ⟨"b"⟩) strayHint [.text "word"] none)]
      [markedParagraph (.unhinted ⟨"b"⟩ strayHint [.text "word"] none)] :=
    .inside (.provider (.map ∅))
      (.inside (.host "p" ∅ (some ⟨"words"⟩)) (.same (.inside .fragment (.element .nil) .nil)) .nil)
      .nil
  obtain ⟨-, anywhere⟩ := render_without_type_hint .looping 5 ∅
  obtain ⟨same, handles⟩ := anywhere _ _ loses
  exact ⟨loses, by rw [same]; rfl, by rw [handles]; rfl⟩

end Node
end Quire
