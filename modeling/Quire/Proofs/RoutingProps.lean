import Quire.Proofs.Attributes
import Quire.Proofs.Markup.Faithfulness
import Quire.Proofs.Markup.StartTags

set_option autoImplicit false

/-!
Properties that steer resolution do not reach the output.

An element's own registry is the one exception: it is handed on as a property that holds a registry,
and such a property is never written. What a document shows under the name of a routing property was
therefore put there by a host node or by the default attributes of a component.
-/

namespace Quire

/-- No entry has the name of a routing property, whether it is named, a symbol, or hidden. -/
def Props.RoutingFree (props : Props) : Prop :=
  ∀ entry ∈ props.entries, entry.key.name ∉ routingKeys

/-- An entry that resolution leaves behind: one that does not steer it, or a registry under its
usual name. -/
def Entry.Settled (entry : Entry Value) : Prop :=
  entry.key.name ∉ routingKeys ∨
    entry.key = .named componentsKey ∧ ∃ own, entry.value = .components own

def Node.HostRoutingFree : Node → Prop
  | .host _ attributes _ _ => attributes.RoutingFree
  | _ => True

namespace Node

theorem HostRoutingFree.gives {node : Node} (free : node.HostRoutingFree) :
    node.Gives Entry.Settled := by
  cases node with
  | host tag attributes children handle => exact fun entry member => .inl (free entry member)
  | element reference props children handle =>
      intro entry member
      rcases Element.mem_forwarded member with ⟨-, -, passed⟩ | ⟨own, -, rfl⟩
      · exact .inl passed
      · exact .inr ⟨rfl, own, rfl⟩
  | empty | text | number | fragment | provider => trivial

variable {library : Library} {limit : Nat} {registry : Registry} {node : Node}
  {document : Document}

private theorem settled_of_render
    (confined : node.Confined (library.Plain fun _ attributes => attributes.RoutingFree) registry)
    (free : node.Throughout (fun _ node => node.HostRoutingFree) registry)
    (rendered : (node.render library limit registry).result = .ok document) :
    ∀ element ∈ document.elements, ∀ entry ∈ element.attributes.entries, entry.Settled := by
  obtain ⟨steps, final, expansion⟩ := expands_of_render rendered
  have defaults : node.Confined (library.Plain fun _ attributes =>
      ∀ entry ∈ attributes.entries, entry.enumerable = true → entry.Settled) registry :=
    confined.imp fun plain => plain.imp fun free entry member _ => .inl (free entry member)
  have given : node.Throughout (fun _ node => node.Gives Entry.Settled) registry :=
    free.imp HostRoutingFree.gives
  exact expansion.forall_attributes (List.forall_mem_singleton.mpr defaults)
    (List.forall_mem_singleton.mpr given)

end Node

private theorem Html.name_not_routing {props : Props} (settled : ∀ entry ∈ props.entries, entry.Settled)
    {written : Attribute} (member : written ∈ attributes props) : written.name ∉ routingKeys := by
  obtain ⟨name, value, held, made, named⟩ := mem_attributes member
  rcases settled _ held with passed | ⟨-, own, registry⟩
  · rw [named]
    rcases attributeName_cases name with ⟨-, same⟩ | ⟨-, same⟩ | same
    · rw [same]
      decide
    · rw [same]
      decide
    · rw [same]
      exact passed
  · cases registry
    cases made

namespace Node

variable {library : Library} {limit : Nat} {registry : Registry} {node : Node}
  {document : Document}

/-- Routing properties never reach the output. Where components are host elements or stand for their
children, and neither default attributes nor host nodes use the name of a routing property, no
element of a rendered document has an entry under such a name, registries under their usual name
apart, and no start tag that is written carries such an attribute. -/
theorem render_withholds_routing
    (confined : node.Confined (library.Plain fun _ attributes => attributes.RoutingFree) registry)
    (free : node.Throughout (fun _ node => node.HostRoutingFree) registry)
    (rendered : (node.render library limit registry).result = .ok document) :
    (∀ element ∈ document.elements, ∀ entry ∈ element.attributes.entries,
      entry.key.name ∉ ["mdxType", "originalType", "parentName"] ∧
      (entry.key.name = "components" →
        entry.key = .named "components" ∧ ∃ own, entry.value = .components own)) ∧
    ∀ options, ∀ start ∈ Html.startTags (document.html options), ∀ written ∈ start.attributes,
      written.name ∉ ["components", "mdxType", "originalType", "parentName"] := by
  have settled := settled_of_render confined free rendered
  refine ⟨?_, ?_⟩
  · intro element member entry held
    rcases settled element member entry held with passed | ⟨key, own, registry⟩
    · refine ⟨fun routing => passed (List.mem_cons_of_mem _ routing), ?_⟩
      intro named
      exact False.elim (passed (by rw [named]; exact List.mem_cons_self))
    · rw [key]
      exact ⟨by decide, fun _ => ⟨rfl, own, registry⟩⟩
  · obtain ⟨steps, final, expansion⟩ := expands_of_render rendered
    intro options start found written member
    rw [Document.startTags_html expansion.tagsValid] at found
    obtain ⟨id, attributes, children, present, same⟩ := Tree.mem_startTagsAll found
    rw [same] at member
    exact Html.name_not_routing (settled _ present) member

def routedProps : Props :=
  ((Bag.ofList [(typeKey, .text "Note"), (parentKey, .text "p"), ("originalType", .text "aside"),
    (componentsKey, .components ∅), ("id", .text "n1")]).insertSymbol typeKey
      (.text "Note")).insertHidden (.symbol parentKey) .null

def routedNote : Node :=
  .provider (.map (Registry.empty.insert ⟨"p.Note"⟩ (.custom 0)))
    [.element (.named ⟨"Aside"⟩) routedProps [.text "see below"] none]

def routedDocument : Document :=
  [.element 0 "b"
    (Bag.ofList [("title", .text "bold"), ("id", .text "n1"), (componentsKey, .components ∅)])
    [.text "see below"]]

private theorem confined_routedNote :
    routedNote.Confined (Library.bold.Plain fun _ attributes => attributes.RoutingFree) ∅ := by
  refine ⟨.empty, .intro (Registry.All.insert .empty ?_) (List.forall_mem_singleton.mpr ?_)⟩
  · exact List.forall_mem_singleton.mpr (by decide)
  · refine .intro ⟨nofun, ?_⟩ (List.forall_mem_singleton.mpr (.intro trivial nofun))
    intro own stored
    cases stored
    exact .empty

theorem render_withholds_routing_routedNote :
    routedNote.Confined (Library.bold.Plain fun _ attributes => attributes.RoutingFree) ∅ ∧
      routedNote.Throughout (fun _ node => node.HostRoutingFree) ∅ ∧
      (routedNote.render .bold 3 ∅).result = .ok routedDocument ∧
      Html.startTags (routedDocument.html ⟨true, true⟩) =
        [⟨"b", [⟨"title", some "bold"⟩, ⟨"id", some "n1"⟩]⟩] ∧
      ∀ start ∈ Html.startTags (routedDocument.html ⟨true, true⟩), ∀ written ∈ start.attributes,
        written.name ∉ ["components", "mdxType", "originalType", "parentName"] := by
  have free : routedNote.Throughout (fun _ node => node.HostRoutingFree) ∅ := by
    refine .intro trivial (List.forall_mem_singleton.mpr (.intro trivial ?_))
    exact List.forall_mem_singleton.mpr (.intro trivial nofun)
  have rendered : (routedNote.render .bold 3 ∅).result = .ok routedDocument := rfl
  exact ⟨confined_routedNote, free, rendered, by decide,
    (render_withholds_routing confined_routedNote free rendered).2 ⟨true, true⟩⟩

end Node
end Quire
