import Quire.Proofs.DepthLimit
import Quire.Proofs.PlainComponents

set_option autoImplicit false

/-!
Trees that render exactly when the limit allows for their height.

Where every reference can be resolved and every component is plain, nothing but the limit can stop
a rendering. Each node takes one level, and an element one more for the node it is dispatched to.
-/

namespace Quire

namespace Node

mutual

/-- How far a tree reaches below its root. An element counts once more, for the node that its
component puts in its place. -/
def height : Node → Nat
  | .empty => 0
  | .text _ => 0
  | .number _ => 0
  | .fragment children => levels children
  | .provider _ children => levels children
  | .host _ _ children _ => levels children
  | .element _ _ children _ => 1 + levels children
termination_by structural node => node

def levels : List Node → Nat
  | [] => 0
  | node :: nodes => max (1 + node.height) (levels nodes)
termination_by structural nodes => nodes

end

/-- Nothing about a node stands in the way of rendering it below the registry `root`: overrides add
bindings, element names are well formed, hints can be read, and a component is known for every
name. -/
def Resolvable (root : Registry) : Node → Prop
  | .provider (.compute _) _ => False
  | .host tag _ _ _ => Tag.isValid tag = true
  | .element reference props _ _ =>
      props.Routable ∧ ∀ name, reference = .named name →
        root.Knows (((props.getText? typeKey).map Name.mk).getD name)
  | _ => True

end Node

/-- A pass over nodes succeeds with every budget that allows for their levels, and overruns every
smaller one. -/
structure Settles (library : Library) (registry : Registry) (nodes : List Node) : Prop where
  expands : ∀ budget next, Node.levels nodes ≤ budget →
    ∃ steps trees final, Expands library budget registry next nodes steps trees final
  overruns : ∀ budget next, budget < Node.levels nodes →
    Overruns library budget registry next nodes

namespace Settles

variable {library : Library} {registry inside : Registry} {node : Node} {nodes below : List Node}

private theorem of_forall (settle : ∀ node ∈ nodes, Settles library registry [node]) :
    Settles library registry nodes := by
  induction nodes with
  | nil => exact ⟨fun _ next _ => ⟨[], [], next, .nil⟩, nofun⟩
  | cons node nodes ih =>
      obtain ⟨first, others⟩ := List.forall_mem_cons.mp settle
      have rest := ih others
      have alone : Node.levels [node] = 1 + node.height := by simp [Node.levels]
      constructor
      · intro budget next enough
        rw [Node.levels] at enough
        obtain ⟨made, inner, middle, expansion⟩ := first.expands budget next (by omega)
        obtain ⟨steps, trees, final, expansions⟩ := rest.expands budget middle (by omega)
        exact ⟨_, _, _, expansion.cons expansions⟩
      · intro budget next short
        rw [Node.levels] at short
        by_cases enough : Node.levels [node] ≤ budget
        · obtain ⟨made, inner, middle, expansion⟩ := first.expands budget next enough
          exact .later expansion (rest.overruns budget middle (by omega))
        · exact .cons (first.overruns budget next (by omega))

private theorem of_below (inner : Settles library inside below) {start : Nat → Nat}
    (opens : ∀ next, node.Opens library registry next inside (start next) below)
    (height : node.height = Node.levels below) : Settles library registry [node] := by
  have alone : Node.levels [node] = 1 + Node.levels below := by simp [Node.levels, height]
  constructor
  · intro budget next enough
    cases budget with
    | zero => omega
    | succ budget =>
        obtain ⟨steps, trees, final, expansion⟩ := inner.expands budget (start next) (by omega)
        obtain ⟨made, grown, whole⟩ := (opens next).expands expansion
        exact ⟨made, grown, final, whole⟩
  · intro budget next short
    cases budget with
    | zero => exact .exhausted
    | succ budget => exact .opened (opens next) (inner.overruns budget (start next) (by omega))

private theorem of_leaf (height : node.height = 0)
    (expands : ∀ {budget next},
      ∃ steps trees final, Expands library (budget + 1) registry next [node] steps trees final) :
    Settles library registry [node] := by
  have alone : Node.levels [node] = 1 := by simp [Node.levels, height]
  constructor
  · intro budget next enough
    cases budget with
    | zero => omega
    | succ budget => exact expands
  · intro budget next short
    obtain rfl : budget = 0 := by omega
    exact .exhausted

theorem fragment {children : List Node} (inner : Settles library registry children) :
    Settles library registry [.fragment children] :=
  inner.of_below (fun _ => .fragment) rfl

theorem provider {overrides : Overrides} {children : List Node}
    (inner : Settles library (overrides.view registry) children) :
    Settles library registry [.provider overrides children] :=
  inner.of_below (fun _ => .provider) rfl

theorem host {tag : String} {attributes : Props} {children : List Node} {handle : Option Handle}
    (valid : Tag.isValid tag = true) (inner : Settles library registry children) :
    Settles library registry [.host tag attributes children handle] :=
  inner.of_below (fun _ => .host valid) rfl

theorem element {reference : Reference} {props : Props} {children : List Node}
    {handle : Option Handle} {called : List Step} {rendered : Node}
    (dispatched : Element.dispatch library registry ⟨reference, props, children, handle⟩ =
      ⟨called, .ok rendered⟩)
    (height : rendered.height = Node.levels children)
    (inner : Settles library registry [rendered]) :
    Settles library registry [.element reference props children handle] := by
  apply inner.of_below fun _ => .element dispatched
  simp [Node.height, Node.levels, height]

theorem render_succeeds {limit : Nat} (settles : Settles library registry [node])
    (enough : node.height ≤ effectiveLimit limit) :
    ∃ document, (node.render library limit registry).result = .ok document := by
  have levels : Node.levels [node] ≤ effectiveLimit limit + 1 := by
    simp only [Node.levels]
    omega
  obtain ⟨steps, trees, final, expansion⟩ := settles.expands _ 0 levels
  exact ⟨trees, (Node.render_of_expands expansion).1⟩

theorem render_exceeds {limit : Nat} (settles : Settles library registry [node])
    (higher : effectiveLimit limit < node.height) :
    (node.render library limit registry).result =
      .error (.depthExceeded (effectiveLimit limit)) := by
  have levels : effectiveLimit limit + 1 < Node.levels [node] := by
    simp only [Node.levels]
    omega
  exact Node.render_of_overruns (settles.overruns _ 0 levels)

theorem render_succeeds_iff {limit : Nat} (settles : Settles library registry [node]) :
    (∃ document, (node.render library limit registry).result = .ok document) ↔
      node.height ≤ effectiveLimit limit := by
  refine ⟨?_, settles.render_succeeds⟩
  rintro ⟨document, rendered⟩
  apply Nat.le_of_not_lt
  intro higher
  rw [settles.render_exceeds higher] at rendered
  cases rendered

end Settles

namespace Node

variable {library : Library} {root registry : Registry} {node : Node}

private theorem Confined.dispatch_succeeds {reference : Reference} {props : Props} {children : List Node}
    {handle : Option Handle}
    (confined : (Node.element reference props children handle).Confined
      (library.Plain fun tag _ => Tag.isValid tag = true) registry)
    (routable : props.Routable)
    (known : ∀ name, reference = .named name →
      registry.Knows (((props.getText? typeKey).map Name.mk).getD name)) :
    ∃ called rendered, Element.dispatch library registry ⟨reference, props, children, handle⟩ =
      ⟨called, .ok rendered⟩ := by
  obtain ⟨component, found⟩ : ∃ component,
      Element.component ⟨reference, props, children, handle⟩ (.read props) registry =
        .ok component :=
    Element.exists_component fun name named => (known name named).view _
  have plain := confined.plain_component (fun _ valid => valid) found
  rcases plain.invoke_cases _ with invoked | ⟨tag, attributes, -, invoked⟩
  · exact ⟨_, _, Element.dispatch_eq_ok_iff.mpr ⟨component, routable, found, invoked, rfl⟩⟩
  · exact ⟨_, _, Element.dispatch_eq_ok_iff.mpr ⟨component, routable, found, invoked, rfl⟩⟩

private theorem Resolvable.addsBindings (resolvable : node.Resolvable root) : node.AddsBindings := by
  cases node with
  | provider overrides children =>
      cases overrides with
      | compute view => cases resolvable
      | map added => trivial
  | empty | text | number | element | host | fragment => trivial

theorem Throughout.settles
    (resolvable : node.Throughout (fun _ node => node.Resolvable root) registry)
    (confined : node.Confined (library.Plain fun tag _ => Tag.isValid tag = true) registry)
    (wide : ∀ {name}, root.Knows name → registry.Knows name) :
    Settles library registry [node] := by
  induction resolvable with
  | @intro registry node here below ih =>
      have inner : Settles library (node.viewBelow registry) node.children := by
        apply Settles.of_forall
        intro child member
        exact ih child member (confined.child child member)
          fun known => here.addsBindings.knows_below (wide known)
      cases node with
      | empty => exact .of_leaf rfl ⟨_, _, _, .empty .nil⟩
      | text content => exact .of_leaf rfl ⟨_, _, _, .text .nil⟩
      | number value => exact .of_leaf rfl ⟨_, _, _, .number .nil⟩
      | fragment children => exact inner.fragment
      | provider overrides children => exact inner.provider
      | host tag attributes children handle => exact inner.host here
      | element reference props children handle =>
          obtain ⟨routable, known⟩ := here
          obtain ⟨called, rendered, dispatched⟩ := confined.dispatch_succeeds routable
            fun name named => wide (known name named)
          rcases confined.dispatch_cases (fun _ valid => valid) dispatched with
            rfl | ⟨tag, attributes, valid, rfl⟩
          · exact .element dispatched rfl inner.fragment
          · exact .element dispatched rfl (inner.host valid)

/-- Only the limit can stop the rendering of a tree of plain components in which every name is
known, and it does so exactly when the tree is higher than the limit in effect. -/
theorem render_succeeds_iff_height_le (limit : Nat)
    (confined : node.Confined (library.Plain fun tag _ => Tag.isValid tag = true) root)
    (resolvable : node.Throughout (fun _ node => node.Resolvable root) root) :
    ((∃ document, (node.render library limit root).result = .ok document) ↔
      node.height ≤ min limit 1024) ∧
    (¬ node.height ≤ min limit 1024 →
      (node.render library limit root).result = .error (.depthExceeded (min limit 1024))) := by
  have settles : Settles library root [node] := resolvable.settles confined id
  refine ⟨settles.render_succeeds_iff, ?_⟩
  intro higher
  exact settles.render_exceeds (Nat.lt_of_not_le higher)

def noteRegistry : Registry :=
  Registry.empty.insert ⟨"Note"⟩ (.custom 0)

def inlineNote : Node :=
  .provider (.map (Registry.empty.insert ⟨"p.Note"⟩ (.builtin ⟨"wrapper"⟩)))
    [.element (.named ⟨"Note"⟩) (Bag.ofList [(parentKey, .text "p")])
      [.host "i" ∅ [.text "see below"] none] none]

private theorem confined_inlineNote :
    inlineNote.Confined (Library.bold.Plain fun tag _ => Tag.isValid tag = true) noteRegistry := by
  refine ⟨Registry.All.insert .empty (show Tag.isValid "b" = true by decide), .intro ?_ ?_⟩
  · exact Registry.All.insert .empty trivial
  · refine List.forall_mem_singleton.mpr (.intro ⟨nofun, nofun⟩ ?_)
    refine List.forall_mem_singleton.mpr (.intro trivial ?_)
    exact List.forall_mem_singleton.mpr (.intro trivial nofun)

private theorem resolvable_inlineNote :
    inlineNote.Throughout (fun _ node => node.Resolvable noteRegistry) noteRegistry := by
  refine .intro trivial (List.forall_mem_singleton.mpr (.intro ⟨⟨nofun, ?_, nofun⟩, ?_⟩ ?_))
  · rintro value stored
    cases stored
    exact .inr ⟨"p", rfl⟩
  · rintro name same
    cases same
    exact .inl rfl
  · refine List.forall_mem_singleton.mpr (.intro (show Tag.isValid "i" = true by decide) ?_)
    exact List.forall_mem_singleton.mpr (.intro trivial nofun)

theorem render_succeeds_inlineNote :
    inlineNote.Confined (Library.bold.Plain fun tag _ => Tag.isValid tag = true) noteRegistry ∧
      inlineNote.Throughout (fun _ node => node.Resolvable noteRegistry) noteRegistry ∧
      (∃ document, (inlineNote.render .bold 4 noteRegistry).result = .ok document) ∧
      (inlineNote.render .bold 3 noteRegistry).result = .error (.depthExceeded 3) := by
  have height : inlineNote.height = 4 := rfl
  refine ⟨confined_inlineNote, resolvable_inlineNote, ?_, ?_⟩
  · apply (render_succeeds_iff_height_le 4 confined_inlineNote resolvable_inlineNote).1.mpr
    rw [height]
    decide
  · apply (render_succeeds_iff_height_le 3 confined_inlineNote resolvable_inlineNote).2
    rw [height]
    decide

end Node
end Quire
