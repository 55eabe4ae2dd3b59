import Quire.Proofs.Attributes
import Quire.Proofs.Markup.Faithfulness
import Quire.Proofs.Markup.StartTags
import Quire.Proofs.Merging
import Quire.Proofs.Visits

set_option autoImplicit false

/-!
When the attribute names of a start tag are distinct.

Bags have distinct keys, also after merging and forwarding, but two of the names that properties can
have are written as others: `className` as `class` and `htmlFor` as `for`. A start tag repeats a name
exactly if its bag prints both properties of such a pair. Whoever reads the markup then keeps the one
that stands first, which need not be the one that was given last.
-/

namespace Quire

namespace Bag

variable {α : Type} {bag : Bag α}

private theorem mem_entries_iff {entry : Entry α} :
    entry ∈ bag.entries ↔ bag.find? entry.key = some entry :=
  ⟨find?_key, List.mem_of_find?_eq_some⟩

private theorem nodup_named (bag : Bag α) : (bag.named.map Prod.fst).Nodup := by
  have distinct := bag.nodup_keys
  rw [keys, List.Nodup, List.pairwise_map] at distinct
  rw [List.Nodup, List.pairwise_map, named, List.pairwise_filterMap]
  refine distinct.imp ?_
  intro entry other different property shown property' shown' same
  obtain ⟨key, value, enumerable⟩ := entry
  obtain ⟨key', value', enumerable'⟩ := other
  cases key <;> cases key' <;> cases enumerable <;> cases enumerable' <;> cases shown <;>
    cases shown'
  exact different (congrArg Key.named same)

def shown? (bag : Bag α) (key : Key) : Option (Entry α) :=
  (bag.find? key).filter Entry.enumerable

private theorem mem_named_iff {name : String} {value : α} :
    (name, value) ∈ bag.named ↔ bag.shown? (.named name) = some ⟨.named name, value, true⟩ := by
  rw [mem_named, mem_entries_iff, shown?, Option.filter_eq_some_iff]
  exact (and_iff_left rfl).symm

private theorem shown?_eq_none_iff {name : String} :
    bag.shown? (.named name) = none ↔ ∀ value, (name, value) ∉ bag.named := by
  constructor
  · intro hidden value listed
    cases hidden.symm.trans (mem_named_iff.mp listed)
  · intro absent
    cases shown : bag.shown? (.named name) with
    | none => rfl
    | some entry =>
        obtain ⟨found, enumerable⟩ := Option.filter_eq_some_iff.mp shown
        obtain ⟨key, value, _⟩ := entry
        obtain rfl : key = .named name := by simpa using List.find?_some found
        cases enumerable
        exact absurd (mem_named.mpr (List.mem_of_find?_eq_some found)) (absent value)

private theorem find?_absorb_shown (bag source : Bag α) (key : Key) :
    (bag.absorb source).find? key = (source.shown? key).or (bag.find? key) := by
  rw [find?_absorb, isEnumerable, shown?]
  cases source.find? key with
  | none => rfl
  | some entry => cases visible : entry.enumerable <;> simp [Option.filter_some, visible]

private theorem mem_named_mergeWithSymbols {defaults given : Bag α} {name : String} {value : α} :
    (name, value) ∈ (mergeWithSymbols [some defaults, some given]).named ↔
      (name, value) ∈ given.named ∨
        (∀ other, (name, other) ∉ given.named) ∧ (name, value) ∈ defaults.named := by
  have found : (mergeWithSymbols [some defaults, some given]).find? (.named name) =
      (given.shown? (.named name)).or (defaults.shown? (.named name)) := by
    rw [mergeWithSymbols_eq_foldl]
    refine (find?_absorb_shown _ _ _).trans (congrArg _ ?_)
    exact (find?_absorb_shown _ _ _).trans (Option.or_none ..)
  rw [mem_named, mem_entries_iff, found, Option.or_eq_some_iff, mem_named_iff, mem_named_iff,
    shown?_eq_none_iff]

end Bag

namespace Html

variable {props : Props}

def printed (props : Props) : List String :=
  (props.named.filter fun property =>
    isAttributeName property.1 &&
      (Attribute.ofProperty? property.1 property.2).isSome).map Prod.fst

def Collides (props : Props) : Prop :=
  "class" ∈ printed props ∧ "className" ∈ printed props ∨
    "for" ∈ printed props ∧ "htmlFor" ∈ printed props

/-- The attribute that is kept for a name. One whose name was met before is passed over. Names are
compared as they are written: a browser also takes two names for one that differ in ASCII case only,
such as `Title` and `title`, which are two properties here. -/
def StartTag.kept? (start : StartTag) (name : String) : Option Attribute :=
  start.attributes.find? fun written => written.name == name

private theorem map_name_attributes (props : Props) :
    (attributes props).map Attribute.name = (printed props).map attributeName := by
  unfold attributes printed
  induction props.named with
  | nil => rfl
  | cons property rest ih =>
      cases valid : isAttributeName property.1 with
      | false => simpa [valid] using ih
      | true =>
          cases made : Attribute.ofProperty? property.1 property.2 with
          | none => simpa [valid, made] using ih
          | some written =>
              have named := Attribute.name_ofProperty? made
              simpa [valid, made, named] using ih

private theorem nodup_printed (props : Props) : (printed props).Nodup :=
  props.nodup_named.sublist (List.filter_sublist.map Prod.fst)

private theorem attributeName_eq_cases {name other : String}
    (same : attributeName name = attributeName other) :
    name = other ∨
      (name = "class" ∧ other = "className" ∨ name = "className" ∧ other = "class") ∨
      (name = "for" ∧ other = "htmlFor" ∨ name = "htmlFor" ∧ other = "for") := by
  rcases attributeName_cases name with ⟨rfl, written⟩ | ⟨rfl, written⟩ | written
  · rcases attributeName_cases other with ⟨rfl, -⟩ | ⟨rfl, written'⟩ | written'
    · exact .inl rfl
    · exact absurd (written.symm.trans (same.trans written')) (by decide)
    · exact .inr (.inl (.inr ⟨rfl, written'.symm.trans (same.symm.trans written)⟩))
  · rcases attributeName_cases other with ⟨rfl, written'⟩ | ⟨rfl, -⟩ | written'
    · exact absurd (written.symm.trans (same.trans written')) (by decide)
    · exact .inl rfl
    · exact .inr (.inr (.inr ⟨rfl, written'.symm.trans (same.symm.trans written)⟩))
  · rcases attributeName_cases other with ⟨rfl, written'⟩ | ⟨rfl, written'⟩ | written'
    · exact .inr (.inl (.inl ⟨written.symm.trans (same.trans written'), rfl⟩))
    · exact .inr (.inr (.inl ⟨written.symm.trans (same.trans written'), rfl⟩))
    · exact .inl (written.symm.trans (same.trans written'))

private theorem nodup_names_iff :
    ((attributes props).map Attribute.name).Nodup ↔ ¬ Collides props := by
  rw [map_name_attributes, List.nodup_map_iff_inj_on (nodup_printed props)]
  constructor
  · rintro injective (⟨first, second⟩ | ⟨first, second⟩)
    · exact absurd (injective _ first _ second rfl) (by decide)
    · exact absurd (injective _ first _ second rfl) (by decide)
  · intro apart name first other second same
    rcases attributeName_eq_cases same with equal | pair | pair
    · exact equal
    · refine absurd (.inl ?_) apart
      rcases pair with ⟨rfl, rfl⟩ | ⟨rfl, rfl⟩
      · exact ⟨first, second⟩
      · exact ⟨second, first⟩
    · refine absurd (.inr ?_) apart
      rcases pair with ⟨rfl, rfl⟩ | ⟨rfl, rfl⟩
      · exact ⟨first, second⟩
      · exact ⟨second, first⟩

private theorem StartTag.kept?_of_mem {start : StartTag}
    (distinct : (start.attributes.map Attribute.name).Nodup) {written : Attribute}
    (member : written ∈ start.attributes) : start.kept? written.name = some written := by
  obtain ⟨found, kept⟩ : ∃ found, start.kept? written.name = some found :=
    Option.isSome_iff_exists.mp (List.find?_isSome.mpr ⟨written, member, beq_self_eq_true _⟩)
  have named : found.name = written.name := by simpa using List.find?_some kept
  rw [kept, List.inj_on_of_nodup_map distinct (List.mem_of_find?_eq_some kept) member named]

private theorem mem_attributes_of_named {name : String} {value : Value} {written : Attribute}
    (listed : (name, value) ∈ props.named) (valid : isAttributeName name = true)
    (made : Attribute.ofProperty? name value = some written) : written ∈ attributes props :=
  List.mem_filterMap.mpr ⟨(name, value), List.mem_filter.mpr ⟨listed, valid⟩, made⟩

end Html

def Library.anchored : Library where
  configured _ := .host "h2" (Bag.ofList [("class", .text "anchor")])
  custom _ := .fragment

namespace Node

variable {library : Library} {limit : Nat} {registry : Registry} {node : Node}
  {document : Document}

private theorem Invokes.exists_element {view : Registry} {component : Component} {invocation : Invocation}
    {tag : String} {defaults : Props} {steps : List Step} {final : Nat}
    (invokes : node.Invokes library limit registry view component invocation)
    (expansion : Expands library (effectiveLimit limit + 1) registry 0 [node] steps document final)
    (implemented : library.implementation component = .host tag defaults) :
    ∃ id children,
      .element id tag (Bag.mergeWithSymbols [some defaults, some invocation.props]) children ∈
        document.elements := by
  cases invokes with
  | intro visit routable found =>
      obtain ⟨made, trees, stop, reached, part⟩ := visit.expands expansion
      obtain ⟨called, returned, followed, dispatched, inner, -⟩ := Expands.element_iff.mp reached
      obtain ⟨component', -, found', invoked, -⟩ := Element.dispatch_eq_ok_iff.mp dispatched
      cases found.symm.trans found'
      cases (Library.invoke_of_host implemented _).symm.trans invoked
      obtain ⟨smaller, rfl⟩ := inner.exists_succ_budget
      obtain ⟨_, children, -, -, -, rfl⟩ := Expands.host_iff.mp inner
      exact ⟨_, children, part (List.mem_append_left _ List.mem_cons_self)⟩

/-- The names in a start tag of a rendered document are distinct exactly if its bag does not print
both properties of a pair that is written under one name. Every property that is printed is then the
one that is kept for its name; and of an element made by a host component, it is the one that the
invocation shows, or else the default. -/
theorem render_attribute_names_distinct_iff
    (rendered : (node.render library limit registry).result = .ok document) :
    (∀ options, ∀ start ∈ Html.startTags (document.html options),
      ∃ id bag children, .element id start.tag bag children ∈ document.elements ∧
        start.attributes = Html.attributes bag ∧
        ((start.attributes.map Html.Attribute.name).Nodup ↔ ¬ Html.Collides bag) ∧
        (¬ Html.Collides bag → ∀ name value written, (name, value) ∈ bag.named →
          Html.isAttributeName name = true → Html.Attribute.ofProperty? name value = some written →
          start.kept? (Html.attributeName name) = some written)) ∧
    ∀ view component invocation tag defaults,
      node.Invokes library limit registry view component invocation →
      library.implementation component = .host tag defaults →
      ∃ id bag children, .element id tag bag children ∈ document.elements ∧
        ∀ name value, (name, value) ∈ bag.named ↔
          (name, value) ∈ invocation.props.named ∨
            (∀ other, (name, other) ∉ invocation.props.named) ∧ (name, value) ∈ defaults.named := by
  obtain ⟨steps, final, expansion⟩ := expands_of_render rendered
  constructor
  · intro options start found
    rw [Document.startTags_html expansion.tagsValid] at found
    obtain ⟨id, bag, children, present, same⟩ := Tree.mem_startTagsAll found
    have names : (start.attributes.map Html.Attribute.name).Nodup ↔ ¬ Html.Collides bag := by
      rw [same]
      exact Html.nodup_names_iff
    refine ⟨id, bag, children, present, same, names, ?_⟩
    intro apart name value written listed valid made
    rw [← Html.Attribute.name_ofProperty? made]
    apply Html.StartTag.kept?_of_mem (names.mpr apart)
    rw [same]
    exact Html.mem_attributes_of_named listed valid made
  · intro view component invocation tag defaults invokes implemented
    obtain ⟨id, children, present⟩ := invokes.exists_element expansion implemented
    exact ⟨id, _, children, present, fun name value => Bag.mem_named_mergeWithSymbols⟩

def headings : Registry :=
  Registry.empty.insert ⟨"h2"⟩ (.configured ⟨"h2"⟩)

def classedHeading (name : String) : Node :=
  .ofElement (.typed (.named ⟨"h2"⟩) (Bag.ofList [(name, .text "wide"), ("id", .text "top")])
    [.text "Title"] none)

def classedDocument : Document :=
  [.element 0 "h2" (Bag.ofList [("class", .text "wide"), ("id", .text "top")]) [.text "Title"]]

private theorem invokes_classedHeading :
    (classedHeading "class").Invokes .anchored 256 headings headings (.configured ⟨"h2"⟩)
      ⟨Bag.ofList [("class", .text "wide"), ("id", .text "top")], [.text "Title"], none⟩ := by
  refine .intro .here ⟨?_, ?_, ?_⟩ rfl
  · intro value stored
    cases stored
  · intro value stored
    cases stored
  · intro value stored
    cases stored
    exact .inr ⟨"h2", rfl⟩

theorem render_attribute_names_classedHeading :
    ((classedHeading "class").render .anchored 256 headings).result = .ok classedDocument ∧
      (∀ options, ∀ start ∈ Html.startTags (classedDocument.html options),
        (start.attributes.map Html.Attribute.name).Nodup ∧
          start.kept? "class" = some ⟨"class", some "wide"⟩) ∧
      ∃ id bag children, .element id "h2" bag children ∈ classedDocument.elements ∧
        ("class", .text "wide") ∈ bag.named ∧ ("class", .text "anchor") ∉ bag.named := by
  have rendered :
      ((classedHeading "class").render .anchored 256 headings).result = .ok classedDocument := rfl
  obtain ⟨tags, invoked⟩ := render_attribute_names_distinct_iff rendered
  refine ⟨rendered, ?_, ?_⟩
  · intro options start found
    obtain ⟨id, bag, children, present, -, names, kept⟩ := tags options start found
    injection List.mem_singleton.mp present with _ _ same _
    subst same
    have apart : ¬ Html.Collides (Bag.ofList [("class", .text "wide"), ("id", .text "top")]) := by
      unfold Html.Collides
      decide
    exact ⟨names.mpr apart, kept apart "class" _ _ List.mem_cons_self rfl rfl⟩
  · obtain ⟨id, bag, children, present, shown⟩ := invoked _ _ _ _ _ invokes_classedHeading rfl
    refine ⟨id, bag, children, present, (shown _ _).mpr (.inl List.mem_cons_self), ?_⟩
    intro default
    rcases (shown _ _).mp default with given | ⟨absent, -⟩
    · change _ ∈ [("class", Value.text "wide"), ("id", .text "top")] at given
      simp at given
    · exact absent _ List.mem_cons_self

def doubledClass : Document :=
  [.element 0 "h2"
    (Bag.ofList [("class", .text "anchor"), ("className", .text "wide"), ("id", .text "top")])
    [.text "Title"]]

/-- A class that is given under the other name does not take the place of the default: the start tag
names both, and the default is kept. -/
theorem default_class_hides_given :
    ((classedHeading "className").render .anchored 256 headings).result = .ok doubledClass ∧
      Html.startTags (doubledClass.html ⟨false, false⟩) =
        [⟨"h2", [⟨"class", some "anchor"⟩, ⟨"class", some "wide"⟩, ⟨"id", some "top"⟩]⟩] ∧
      ∃ start ∈ Html.startTags (doubledClass.html ⟨false, false⟩),
        ¬ (start.attributes.map Html.Attribute.name).Nodup ∧
          start.kept? "class" = some ⟨"class", some "anchor"⟩ := by
  have found : Html.startTags (doubledClass.html ⟨false, false⟩) =
      [⟨"h2", [⟨"class", some "anchor"⟩, ⟨"class", some "wide"⟩, ⟨"id", some "top"⟩]⟩] := by decide
  refine ⟨rfl, found, _, found ▸ List.mem_cons_self, ?_, rfl⟩
  decide

end Node
end Quire
