import Quire.Html
import Quire.Page.GettingStarted
import Quire.Proofs.Bags
import Quire.Proofs.PlainComponents
import Quire.Proofs.ProviderChains

set_option autoImplicit false

/-!
A registry given to a page acts as one at the root.

The page hands the registry to its layout, which is looked up in it, and puts a provider of it around
its nodes. Without it, but with the registry merged at the root, the layout and every node see the
same components, one level of nesting further up. All that is left of the registry is a property of
the element that the layout becomes, and that is not written.
-/

namespace Quire

namespace Hints

variable {props : Props} {own root : Registry}

private theorem read_insert_components (props : Props) (own : Registry) :
    read (props.insert componentsKey (.components own)) =
      { read props with components := some own } := by
  have components : (props.insert componentsKey (.components own)).get? componentsKey =
      some (.components own) := by
    rw [Bag.get?_insert, if_pos rfl]
  have parent : componentsKey ≠ parentKey := by decide
  have type : componentsKey ≠ typeKey := by decide
  simp [read, Props.getText?, components, Bag.get?_insert_of_ne parent, Bag.get?_insert_of_ne type,
    Value.components?]

private theorem view_insert_components (props : Props) (own root : Registry) :
    (read (props.insert componentsKey (.components own))).view root = root.merged own := by
  rw [read_insert_components, view_eq_merged]
  rfl

private theorem view_of_absent (absent : props.get? componentsKey = none) (root : Registry) :
    (read props).view root = root := by
  simp [view, read, absent]

end Hints

private theorem Props.Routable.of_insert_components {props : Props} {own : Registry}
    (absent : props.get? componentsKey = none)
    (routable : Props.Routable (props.insert componentsKey (.components own))) :
    props.Routable := by
  refine ⟨?_, ?_, ?_⟩
  · intro value stored
    rw [absent] at stored
    cases stored
  · intro value stored
    exact routable.parent value ((Bag.get?_insert_of_ne (by decide) _ _).trans stored)
  · intro value stored
    exact routable.type value ((Bag.get?_insert_of_ne (by decide) _ _).trans stored)

namespace Element

variable {library : Library} {root own : Registry} {reference : Reference} {props : Props}
  {children children' : List Node} {handle handle' : Option Handle}

private theorem component_insert_components (absent : props.get? componentsKey = none) :
    component ⟨reference, props.insert componentsKey (.components own), children, handle⟩
        (.read (props.insert componentsKey (.components own))) root =
      component ⟨reference, props, children', handle'⟩ (.read props) (root.merged own) := by
  unfold component
  rw [Hints.view_insert_components, Hints.view_of_absent absent, Hints.read_insert_components]

private theorem forwarded_insert_components :
    forwarded ⟨reference, props.insert componentsKey (.components own), children, handle⟩
        (.read (props.insert componentsKey (.components own))) =
      (props.without routingKeys).insert componentsKey (.components own) := by
  unfold forwarded
  rw [Hints.read_insert_components, Bag.without_insert (by decide)]

private theorem forwarded_of_absent (absent : props.get? componentsKey = none) :
    forwarded ⟨reference, props, children, handle⟩ (.read props) = props.without routingKeys := by
  unfold forwarded Hints.read
  rw [absent]
  rfl

/-- Where a plain component is found for an element with a registry of its own, the element without
it is dispatched alike below that registry, and at most a property that holds the registry is
missing. -/
theorem dispatch_insert_components {component : Component} {called : List Step} {rendered : Node}
    (absent : props.get? componentsKey = none)
    (found : Element.component ⟨reference, props, children', handle⟩ (.read props)
      (root.merged own) = .ok component)
    (plain : library.Plain (fun _ attributes => attributes.get? componentsKey = none) component)
    (dispatched : dispatch library root
      ⟨reference, props.insert componentsKey (.components own), children, handle⟩ =
        ⟨called, .ok rendered⟩) :
    ∃ called' rendered', dispatch library (root.merged own) ⟨reference, props, children', handle⟩ =
        ⟨called', .ok rendered'⟩ ∧
      (rendered = .fragment children ∧ rendered' = .fragment children' ∨
        ∃ tag attributes, attributes.get? componentsKey = none ∧
          rendered = .host tag (attributes.insert componentsKey (.components own)) children handle ∧
          rendered' = .host tag attributes children' handle) := by
  obtain ⟨chosen, routable, foundOwn, invoked, -⟩ := dispatch_eq_ok_iff.mp dispatched
  have readable := Props.Routable.of_insert_components absent routable
  obtain rfl : component = chosen := by
    rw [component_insert_components absent, found] at foundOwn
    exact Except.ok.inj foundOwn
  rw [forwarded_insert_components] at invoked
  rcases plain.implementation_cases with implemented | ⟨tag, defaults, bare, implemented⟩
  · rw [Library.invoke_of_fragment implemented] at invoked
    cases invoked
    refine ⟨_, .fragment children', dispatch_eq_ok_iff.mpr ⟨component, readable, found, ?_, rfl⟩,
      .inl ⟨rfl, rfl⟩⟩
    exact Library.invoke_of_fragment implemented _
  · have kept : (props.without routingKeys).get? componentsKey = none :=
      Bag.get?_without (by decide)
    rw [Library.invoke_of_host implemented, Bag.mergeWithSymbols_insert kept] at invoked
    cases invoked
    refine ⟨_, .host tag (Bag.mergeWithSymbols [some defaults, some (props.without routingKeys)])
      children' handle, dispatch_eq_ok_iff.mpr ⟨component, readable, found, ?_, rfl⟩,
      .inr ⟨tag, _, ?_, rfl, rfl⟩⟩
    · rw [forwarded_of_absent absent]
      exact Library.invoke_of_host implemented _
    · apply Bag.get?_mergeKeys_eq_none
      intro source listed
      rcases List.mem_cons.mp listed with same | later
      · cases same
        exact bare
      · cases List.mem_singleton.mp later
        exact kept

end Element

private theorem Html.attributes_insert_components {attributes : Props}
    (absent : attributes.get? componentsKey = none) (own : Registry) :
    Html.attributes (attributes.insert componentsKey (.components own)) =
      Html.attributes attributes := by
  unfold Html.attributes
  rw [Bag.named_insert absent, List.filter_append, List.filterMap_append]
  simp [isAttributeName, Attribute.ofProperty?]

namespace Page

variable {contents : List Heading} {nodes : List Node} {props : Props} {own : Registry}

def layoutProps (contents : List Heading) (props : Props) : Props :=
  (Bag.merge [some (Bag.ofList [("toc", .list (Heading.toValues contents))]),
    some (props.without [componentsKey])]).insert typeKey (.text layoutName)

private theorem get?_layoutProps (contents : List Heading) (props : Props) :
    (layoutProps contents props).get? componentsKey = none := by
  rw [layoutProps, Bag.get?_insert_of_ne (by decide)]
  apply Bag.get?_mergeKeys_eq_none
  intro source listed
  rcases List.mem_cons.mp listed with same | later
  · cases same
    rfl
  · cases List.mem_singleton.mp later
    exact Bag.get?_without List.mem_cons_self

private theorem layout_of_components (stored : props.get? componentsKey = some (.components own)) :
    layout contents nodes props =
      .element (.named ⟨layoutName⟩)
        ((layoutProps contents props).insert componentsKey (.components own))
        [.provider (.map own) nodes] none := by
  have different : componentsKey ≠ typeKey := by decide
  simp only [layout, stored, Option.bind_some, Value.components?, Element.typed, Node.ofElement,
    Bag.insert_insert_comm different, layoutProps]

private theorem layout_without (contents : List Heading) (nodes : List Node) (props : Props) :
    layout contents nodes (props.without [componentsKey]) =
      .element (.named ⟨layoutName⟩) (layoutProps contents props) nodes none := by
  simp only [layout, Bag.get?_without List.mem_cons_self, Bag.without_self, Option.bind_none,
    Element.typed, Node.ofElement, Bag.insert_insert, layoutProps]

end Page

/-- Forests that are equal, or that are one element each and equal but for a registry among the
attributes of the first. -/
def Tree.AgreeUpToRegistry {ι : Type} (own : Registry) (trees bare : List (Tree ι)) : Prop :=
  trees = bare ∨ ∃ id tag attributes children, attributes.get? componentsKey = none ∧
    trees = [.element id tag (attributes.insert componentsKey (.components own)) children] ∧
    bare = [.element id tag attributes children]

private theorem Tree.AgreeUpToRegistry.htmlAll_eq {ι : Type} {own : Registry} {trees bare : List (Tree ι)}
    (agree : AgreeUpToRegistry own trees bare) (pretty : Bool) :
    htmlAll pretty trees = htmlAll pretty bare := by
  rcases agree with rfl | ⟨id, tag, attributes, children, absent, rfl, rfl⟩
  · rfl
  · have sameTag : Html.startTag tag (attributes.insert componentsKey (.components own)) =
        Html.startTag tag attributes := by
      unfold Html.startTag
      rw [Html.attributes_insert_components absent]
    simp only [htmlAll, html, sameTag]

private theorem Expands.layout_without {library : Library} {budget next final : Nat} {root own : Registry}
    {contents : List Heading} {nodes : List Node} {props : Props} {component : Component}
    {steps : List Step} {trees : List (Tree Nat)}
    (stored : props.get? componentsKey = some (.components own))
    (found : Element.component
      ⟨.named ⟨Page.layoutName⟩, Page.layoutProps contents props, nodes, none⟩
      (.read (Page.layoutProps contents props)) (root.merged own) = .ok component)
    (plain : library.Plain (fun _ attributes => attributes.get? componentsKey = none) component)
    (expansion : Expands library budget root next [Page.layout contents nodes props] steps trees
      final) :
    ∃ made bare, Expands library budget (root.merged own) next
        [Page.layout contents nodes (props.without [componentsKey])] made bare final ∧
      Tree.AgreeUpToRegistry own trees bare := by
  have unwrap : ∀ {budget next steps trees},
      Expands library budget root next [.provider (.map own) nodes] steps trees final →
      ∃ made, Expands library budget (root.merged own) next nodes made trees final := by
    intro budget next steps trees inside
    rw [← Overrides.view_map]
    exact inside.of_provider
  rw [Page.layout_of_components stored] at expansion
  rw [Page.layout_without]
  obtain ⟨below, rfl⟩ := expansion.exists_succ_budget
  obtain ⟨called, rendered, made, dispatched, inner, -⟩ := element_iff.mp expansion
  obtain ⟨below, rfl⟩ := inner.exists_succ_budget
  obtain ⟨called', rendered', redispatched, cases⟩ := Element.dispatch_insert_components
    (Page.get?_layoutProps contents props) found plain dispatched
  rcases cases with ⟨rfl, rfl⟩ | ⟨tag, attributes, absent, rfl, rfl⟩
  · obtain ⟨made', inside⟩ := unwrap (fragment_iff.mp inner)
    exact ⟨_, trees, element_iff.mpr ⟨_, _, _, redispatched, fragment_iff.mpr inside, rfl⟩,
      .inl rfl⟩
  · obtain ⟨made, children, valid, kept, -, rfl⟩ := host_iff.mp inner
    obtain ⟨made', inside⟩ := unwrap kept
    have hosted : Expands library (below + 1) (root.merged own) next
        [.host tag attributes nodes none] (.materialized tag next none :: made')
        [.element next tag attributes children] final :=
      host_iff.mpr ⟨made', children, valid, inside, rfl, rfl⟩
    exact ⟨_, _, element_iff.mpr ⟨_, _, _, redispatched, hosted, rfl⟩,
      .inr ⟨next, tag, attributes, children, absent, rfl, rfl⟩⟩

namespace Page.GettingStarted

/-- A registry given to the page acts as one merged at the root, for a layout that is plain. Up to
the registry itself, which the element of the layout holds, the documents are the same, and so is
their HTML. -/
theorem render_given_registry_at_root {library : Library} {limit : Nat} {root own : Registry}
    {props : Props} {layout : Element} {component : Component} {document : Document}
    (stored : props.get? componentsKey = some (.components own))
    (wrapped : page.body (props.without [componentsKey]) = .ofElement layout)
    (found : layout.component (.read layout.props) (root.merged own) = .ok component)
    (plain : library.Plain (fun _ attributes => attributes.get? componentsKey = none) component)
    (rendered : ((page.body props).render library limit root).result = .ok document) :
    ∃ bare : Document,
      ((page.body (props.without [componentsKey])).render library limit (root.merged own)).result =
        .ok bare ∧
      Tree.AgreeUpToRegistry own document bare ∧
      ∀ options, document.html options = bare.html options := by
  obtain ⟨reference, given, children, handle⟩ := layout
  have opened := (layout_without contents nodes props).symm.trans wrapped
  cases opened
  obtain ⟨steps, final, expansion⟩ := Node.expands_of_render rendered
  obtain ⟨made, bare, without, agree⟩ := Expands.layout_without stored found plain expansion
  refine ⟨bare, (Node.render_of_expands without).1, agree, ?_⟩
  intro options
  unfold Document.html
  rw [agree.htmlAll_eq]

def ownLayout : Registry :=
  (Registry.empty.insert ⟨"wrapper"⟩ (.custom 0)).insert ⟨"p.strong"⟩ (.custom 1)

def callerProps : Props :=
  Bag.ofList [(componentsKey, .components ownLayout), ("className", .text "markdown")]

def rootLayout : Registry :=
  Registry.empty.insert ⟨"wrapper"⟩ (.builtin ⟨"blockquote"⟩)

theorem render_given_registry_callerProps :
    ∃ document bare : Document,
      ((page.body callerProps).render .bold 7 rootLayout).result = .ok document ∧
      ((page.body (callerProps.without [componentsKey])).render .bold 7
        (rootLayout.merged ownLayout)).result = .ok bare ∧
      Tree.AgreeUpToRegistry ownLayout document bare ∧
      ∀ options, document.html options = bare.html options := by
  have succeeds : ((page.body callerProps).render .bold 7 rootLayout).result.isOk = true := by
    decide +kernel
  cases rendered : ((page.body callerProps).render .bold 7 rootLayout).result with
  | error failure =>
      rw [rendered] at succeeds
      cases succeeds
  | ok document =>
      have wrapped : page.body (callerProps.without [componentsKey]) =
          .ofElement ⟨.named ⟨layoutName⟩, layoutProps contents callerProps, nodes, none⟩ :=
        layout_without contents nodes callerProps
      have plain : Library.bold.Plain (fun _ attributes => attributes.get? componentsKey = none)
          (.custom 0) := rfl
      obtain ⟨bare, result, agree, sameHtml⟩ :=
        render_given_registry_at_root rfl wrapped rfl plain rendered
      exact ⟨document, bare, rfl, result, agree, sameHtml⟩

end Page.GettingStarted
end Quire
