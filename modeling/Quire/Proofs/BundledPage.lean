import Quire.Page.GettingStarted
import Quire.Page.Rendering
import Quire.Proofs.Attributes
import Quire.Proofs.Progress
import Quire.Proofs.TextContent
import Quire.Settings.Check

set_option autoImplicit false

/-!
Settings that pass their check render the bundled page.

The check admits only host elements with well-formed tags and attribute names. The page consists of
texts and of elements under built-in names, so that whatever the settings put in place of these, the
page is cut off at its height, keeps its text, and is written without a warning.
-/

namespace Quire

namespace Settings

variable {settings : Settings}

def Admits (tag : String) (attributes : Props) : Prop :=
  Tag.isValid tag = true ∧ ∀ entry ∈ attributes.entries, Html.WellNamed entry

private theorem depth_of_fault? (checked : settings.fault? = none) :
    1 ≤ settings.maxDepth ∧ settings.maxDepth ≤ maximalLimit := by
  unfold fault? at checked
  split at checked
  · cases checked
  · omega

private theorem admits_of_fault? (checked : settings.fault? = none) {name : Name} {host : HostSettings}
    (configured : (name, host) ∈ settings.components) : Admits host.tag host.attributes := by
  unfold fault? at checked
  split at checked
  · cases checked
  · have fine := List.findSome?_eq_none_iff.mp checked (name, host) configured
    unfold componentFault? at fine
    split at fine
    · cases fine
    · split at fine
      · cases fine
      · rename_i valid
        refine ⟨by simpa using valid, Html.malformed_eq_nil_iff.mp ?_⟩
        simpa using fine

private theorem plain_configured (checked : settings.fault? = none) (custom : Nat → Implementation)
    {name : Name} (configured : name ∈ settings.components.map Prod.fst) :
    (settings.library custom).Plain Admits (.configured name) := by
  show (settings.implementation name).Plain Admits
  unfold implementation
  split
  · rename_i host found
    obtain ⟨before, after, split, -⟩ := List.lookup_eq_some_iff.mp found
    exact admits_of_fault? checked (split ▸ List.mem_append_right before List.mem_cons_self)
  · rename_i missing
    obtain ⟨binding, member, rfl⟩ := List.mem_map.mp configured
    have different := List.lookup_eq_none_iff.mp missing binding member
    simp at different

private theorem registry_plain (checked : settings.fault? = none) (custom : Nat → Implementation) :
    settings.registry.All ((settings.library custom).Plain Admits) := by
  apply Registry.All.ofList
  intro binding member
  obtain ⟨configured, listed, rfl⟩ := List.mem_map.mp member
  exact plain_configured checked custom (List.mem_map_of_mem listed)

end Settings

namespace Node

/-- What a page says about one of its components: its name is built in, and its properties hold the
name as a hint, no registry, and nothing that cannot be written. -/
structure PartProps (name : Name) (props : Props) : Prop where
  builtin : (Builtin.find? name).isSome = true
  components : props.get? componentsKey = none
  type : props.get? typeKey = some (.text name.text)
  parent : ∀ value, props.get? parentKey = some value → ∃ parent, value = .text parent
  named : Html.malformed props = []

inductive IsPart : Node → Prop where
  | text {content} : IsPart (.text content)
  | element {name props children handle} :
      PartProps name props → IsPart (.element (.named name) props children handle)

variable {accept : Component → Prop} {registry root : Registry} {node : Node}

theorem IsPart.brings (part : node.IsPart) : node.Brings accept registry := by
  cases part with
  | text => trivial
  | element fits =>
      refine ⟨nofun, ?_⟩
      intro own stored
      rw [fits.components] at stored
      cases stored

theorem IsPart.resolvable (part : node.IsPart) : node.Resolvable root := by
  cases part with
  | text => trivial
  | @element name props _ _ fits =>
      refine ⟨⟨?_, ?_, ?_⟩, ?_⟩
      · intro value stored
        rw [fits.components] at stored
        cases stored
      · intro value stored
        exact .inr (fits.parent value stored)
      · intro value stored
        rw [fits.type] at stored
        cases stored
        exact .inr ⟨name.text, rfl⟩
      · intro own same
        cases same
        have hint : props.getText? typeKey = some name.text := by
          simp [Props.getText?, fits.type, Value.text?]
        rw [hint]
        exact .inr (.inl fits.builtin)

theorem IsPart.gives (part : node.IsPart) : node.Gives Html.WellNamed := by
  cases part with
  | text => trivial
  | element fits =>
      intro entry member
      rcases Element.mem_forwarded member with ⟨given, -, -⟩ | ⟨own, hinted, -⟩
      · exact Html.malformed_eq_nil_iff.mp fits.named entry given
      · simp [Hints.read, fits.components] at hinted

end Node

namespace Page.GettingStarted

variable {registry : Registry}

private theorem parts_text (content : String) :
    (Node.text content).Throughout (fun _ node => node.IsPart) registry :=
  .intro .text nofun

private theorem parts_part {name : String} {props : Props} {children : List Node}
    (fits : Node.PartProps ⟨name⟩ (props.insert typeKey (.text name)))
    (inner : ∀ child ∈ children, child.Throughout (fun _ node => node.IsPart) registry) :
    (part name props children).Throughout (fun _ node => node.IsPart) registry :=
  .intro (.element fits) inner

private theorem parts_paragraph {children : List Node}
    (inner : ∀ child ∈ children, child.Throughout (fun _ node => node.IsPart) registry) :
    (paragraph children).Throughout (fun _ node => node.IsPart) registry :=
  parts_part ⟨rfl, rfl, rfl, nofun, rfl⟩ inner

private theorem parts_within {name : String} (builtin : (Builtin.find? ⟨name⟩).isSome = true)
    (parent content : String) :
    (part name (within parent) [.text content]).Throughout (fun _ node => node.IsPart) registry := by
  refine parts_part ⟨builtin, rfl, rfl, ?_, ?_⟩ (by simp [parts_text])
  · intro value stored
    cases stored
    exact ⟨parent, rfl⟩
  · exact Html.malformed_eq_nil_of_names [parentKey, typeKey] rfl (by decide)

private theorem parts_strong (content : String) :
    (strong content).Throughout (fun _ node => node.IsPart) registry :=
  parts_within rfl "p" content

private theorem parts_inlineCode (content : String) :
    (inlineCode content).Throughout (fun _ node => node.IsPart) registry :=
  parts_within rfl "p" content

private theorem parts_codeBlock (className : Option String) (source : String) :
    (codeBlock className source).Throughout (fun _ node => node.IsPart) registry := by
  refine parts_part ⟨rfl, rfl, rfl, nofun, rfl⟩ (List.forall_mem_singleton.mpr ?_)
  cases className with
  | none => exact parts_within rfl "pre" source
  | some className =>
      refine parts_part ⟨rfl, rfl, rfl, ?_, ?_⟩ (by simp [parts_text])
      · intro value stored
        cases stored
        exact ⟨"pre", rfl⟩
      · exact Html.malformed_eq_nil_of_names [parentKey, "className", typeKey] rfl (by decide)

private theorem parts_nodes : ∀ node ∈ nodes, node.Throughout (fun _ node => node.IsPart) registry := by
  have heading : (part "h2" (Bag.ofList [("id", .text "building-the-project")])
      [.text "Building the Project"]).Throughout (fun _ node => node.IsPart) registry :=
    parts_part ⟨rfl, rfl, rfl, nofun, rfl⟩ (by simp [parts_text])
  simp [nodes, heading, parts_paragraph, parts_strong, parts_inlineCode, parts_codeBlock,
    parts_text]

private theorem parts_body : (page.body ∅).Throughout (fun _ node => node.IsPart) registry :=
  .intro (.element ⟨rfl, rfl, rfl, nofun, rfl⟩) parts_nodes

private theorem height_body : (page.body ∅).height = 6 := rfl

variable {settings : Settings}

private theorem confined_body (checked : settings.fault? = none) (custom : Nat → Implementation) :
    (page.body ∅).Confined ((settings.library custom).Plain Settings.Admits) settings.registry :=
  ⟨Settings.registry_plain checked custom, parts_body.imp Node.IsPart.brings⟩

private theorem settles_body (checked : settings.fault? = none) (custom : Nat → Implementation) :
    Settles (settings.library custom) settings.registry [page.body ∅] := by
  have resolvable : (page.body ∅).Throughout (fun _ node => node.Resolvable settings.registry)
      settings.registry := parts_body.imp Node.IsPart.resolvable
  have confined := (confined_body checked custom).imp fun plain => plain.imp fun admits => admits.1
  exact resolvable.settles confined id

private theorem textContent_body (checked : settings.fault? = none) (custom : Nat → Implementation)
    {document : Document} (rendered : (page.render settings custom ∅).result = .ok document) :
    document.textContent = String.join (page.body ∅).texts :=
  Node.textContent_of_render (fun _ valid => ⟨valid, nofun⟩) (confined_body checked custom) rendered

private theorem malformed_body (checked : settings.fault? = none) (custom : Nat → Implementation)
    {document : Document} (rendered : (page.render settings custom ∅).result = .ok document) :
    ∀ element ∈ document.elements, Html.malformed element.attributes = [] := by
  obtain ⟨steps, final, expansion⟩ := Node.expands_of_render rendered
  have confined := (confined_body checked custom).imp fun plain =>
    plain.imp fun admits entry member (_ : entry.enumerable = true) => admits.2 entry member
  have given : (page.body ∅).Throughout (fun _ node => node.Gives Html.WellNamed)
      settings.registry := parts_body.imp Node.IsPart.gives
  intro element member
  apply Html.malformed_eq_nil_iff.mpr
  exact expansion.forall_attributes (List.forall_mem_singleton.mpr confined)
    (List.forall_mem_singleton.mpr given) element member

private theorem checked_default : Settings.default.fault? = none := rfl

/-- Settings that pass their check render the page exactly when they allow for six levels of
nesting, and otherwise report the depth that they set. The text is that of a site that configures
nothing, and no attribute is skipped when the page is written. -/
theorem checked_settings_render_page (checked : settings.fault? = none)
    (custom : Nat → Implementation) :
    ((∃ document, (page.render settings custom ∅).result = .ok document) ↔
      6 ≤ settings.maxDepth) ∧
    (¬ 6 ≤ settings.maxDepth →
      (page.render settings custom ∅).result = .error (.depthExceeded settings.maxDepth)) ∧
    (∀ document, (page.render settings custom ∅).result = .ok document →
      (∃ plain, (page.render .default custom ∅).result = .ok plain ∧
        document.textContent = plain.textContent) ∧
      (∀ element ∈ document.elements, Html.malformed element.attributes = []) ∧
      document.htmlEvents = []) := by
  have depth : effectiveLimit settings.maxDepth = settings.maxDepth :=
    Nat.min_eq_left (Settings.depth_of_fault? checked).2
  have settles := settles_body checked custom
  refine ⟨?_, ?_, ?_⟩
  · have succeeds : _ ↔ (page.body ∅).height ≤ effectiveLimit settings.maxDepth :=
      settles.render_succeeds_iff
    rwa [depth, height_body] at succeeds
  · intro shallow
    have higher : effectiveLimit settings.maxDepth < (page.body ∅).height := by
      rw [depth, height_body]
      omega
    have failed := settles.render_exceeds higher
    rwa [depth] at failed
  · intro document rendered
    obtain ⟨plain, renderedPlain⟩ : ∃ plain, (page.render .default custom ∅).result = .ok plain :=
      (settles_body checked_default custom).render_succeeds (by decide)
    have named := malformed_body checked custom rendered
    refine ⟨⟨plain, renderedPlain, ?_⟩, named, ?_⟩
    · rw [textContent_body checked custom rendered,
        textContent_body checked_default custom renderedPlain]
    · rw [Document.htmlEvents, Tree.malformedAttributesAll_eq_nil named]
      rfl

def replacing (maxDepth : Nat) : Settings where
  maxDepth := maxDepth
  output := ⟨true, true⟩
  components :=
    [(⟨"wrapper"⟩, ⟨"main", ∅⟩),
      (⟨"p.strong"⟩, ⟨"b", Bag.ofList [("className", .text "key"), ("data-level", .null)]⟩)]
  distinct := by decide

theorem checked_settings_replacing :
    (replacing 6).fault? = none ∧ (replacing 5).fault? = none ∧
      (∃ document, (page.render (replacing 6) (fun _ => .fragment) ∅).result = .ok document) ∧
      (page.render (replacing 5) (fun _ => .fragment) ∅).result = .error (.depthExceeded 5) := by
  have deep : (replacing 6).fault? = none := by decide
  have shallow : (replacing 5).fault? = none := by decide
  exact ⟨deep, shallow, (checked_settings_render_page deep _).1.mpr (by decide),
    (checked_settings_render_page shallow _).2.1 (by decide)⟩

end Page.GettingStarted
end Quire
