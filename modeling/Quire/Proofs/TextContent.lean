import Quire.Proofs.PlainComponents

set_option autoImplicit false

/-!
Resolution neither loses, doubles nor moves text.

Where every component is a host element or stands for its children, the text of a rendered document
is the text of the tree it was rendered from, whichever registry is in view and however providers
and elements change it on the way.
-/

namespace Quire

@[simp] theorem Tree.textContentAll_append {ι : Type} (trees others : List (Tree ι)) :
    textContentAll (trees ++ others) = textContentAll trees ++ textContentAll others := by
  induction trees with
  | nil => simp [textContentAll]
  | cons tree trees ih => simp [textContentAll, ih, String.append_assoc]

namespace Node

mutual

def texts : Node → List String
  | .empty => []
  | .text content => [content]
  | .number value => [value.text]
  | .element _ _ children _ => textsAll children
  | .host _ _ children _ => textsAll children
  | .fragment children => textsAll children
  | .provider _ children => textsAll children
termination_by structural node => node

def textsAll : List Node → List String
  | [] => []
  | node :: nodes => node.texts ++ textsAll nodes
termination_by structural nodes => nodes

end

private theorem Confined.texts_rendered {library : Library} {condition : String → Props → Prop}
    {registry : Registry} {reference : Reference} {props : Props} {children : List Node}
    {handle : Option Handle} {called : List Step} {rendered : Node}
    (bare : ∀ tag, Tag.isValid tag = true → condition tag ∅)
    (confined : (Node.element reference props children handle).Confined (library.Plain condition)
      registry)
    (dispatched : Element.dispatch library registry ⟨reference, props, children, handle⟩ =
      ⟨called, .ok rendered⟩) :
    rendered.texts = (Node.element reference props children handle).texts := by
  rcases confined.dispatch_cases bare dispatched with rfl | ⟨tag, attributes, -, rfl⟩
  · rfl
  · rfl

end Node

namespace Expands

variable {library : Library} {condition : String → Props → Prop} {budget next final : Nat}
  {registry : Registry} {nodes : List Node} {steps : List Step} {trees : List (Tree Nat)}

private theorem textContentAll_eq (bare : ∀ tag, Tag.isValid tag = true → condition tag ∅)
    (expansion : Expands library budget registry next nodes steps trees final)
    (confined : ∀ node ∈ nodes, node.Confined (library.Plain condition) registry) :
    Tree.textContentAll trees = String.join (Node.textsAll nodes) := by
  induction expansion with
  | nil => rfl
  | empty _ ih => exact ih (List.forall_mem_cons.mp confined).2
  | text _ ih | number _ ih =>
      have rest := ih (List.forall_mem_cons.mp confined).2
      simp [Tree.textContentAll, Tree.textContent, Node.textsAll, Node.texts, rest]
  | fragment _ _ childrenIH restIH | provider _ _ childrenIH restIH | host _ _ _ childrenIH restIH =>
      obtain ⟨first, others⟩ := List.forall_mem_cons.mp confined
      have inner := childrenIH first.child
      have rest := restIH others
      simp [Tree.textContentAll, Tree.textContent, Node.textsAll, Node.texts, inner, rest]
  | element dispatched _ _ renderedIH restIH =>
      obtain ⟨first, others⟩ := List.forall_mem_cons.mp confined
      have inner := renderedIH (by simpa using first.rendered bare dispatched)
      have rest := restIH others
      rw [Node.textsAll, first.texts_rendered bare dispatched, Node.textsAll,
        List.append_nil] at inner
      simp [Node.textsAll, inner, rest]

end Expands

namespace Node

variable {library : Library} {registry : Registry} {node : Node} {limit : Nat}
  {document : Document}

theorem textContent_of_render {condition : String → Props → Prop}
    (bare : ∀ tag, Tag.isValid tag = true → condition tag ∅)
    (confined : node.Confined (library.Plain condition) registry)
    (rendered : (node.render library limit registry).result = .ok document) :
    document.textContent = String.join node.texts := by
  obtain ⟨steps, final, expansion⟩ := expands_of_render rendered
  have same := expansion.textContentAll_eq bare (by simpa using confined)
  rwa [textsAll, textsAll, List.append_nil] at same

/-- Resolution keeps every text in its place. Where all components are host elements or stand for
their children, a rendered document holds the texts of its tree from left to right, and so do the
documents of the same tree under any other such registry and any other limit. -/
theorem render_keeps_text (confined : node.Confined (library.Plain fun _ _ => True) registry)
    (rendered : (node.render library limit registry).result = .ok document) :
    document.textContent = String.join node.texts ∧
      ∀ {limit' : Nat} {registry' : Registry} {document' : Document},
        node.Confined (library.Plain fun _ _ => True) registry' →
        (node.render library limit' registry').result = .ok document' →
        document'.textContent = document.textContent := by
  have own := textContent_of_render (fun _ _ => trivial) confined rendered
  refine ⟨own, ?_⟩
  intro limit' registry' document' confined' rendered'
  exact (textContent_of_render (fun _ _ => trivial) confined' rendered').trans own.symm

def emphasisedWords : Node :=
  .fragment [
    .provider (.compute fun _ => Registry.empty.insert ⟨"em"⟩ (.custom 0))
      [.element (.named ⟨"em"⟩) ∅ [.text "one ", .number (.infinite true)] none],
    .element (.direct (.builtin ⟨"wrapper"⟩)) ∅ [.text " three"] none]

def emphasisedDocument : Document :=
  [.element 0 "b" (Bag.ofList [("title", .text "bold")]) [.text "one ", .text "-inf"],
    .text " three"]

private theorem confined_emphasisedWords :
    emphasisedWords.Confined (Library.bold.Plain fun _ _ => True) ∅ := by
  refine ⟨.empty, .intro trivial ?_⟩
  refine List.forall_mem_cons.mpr ⟨.intro ?_ ?_, List.forall_mem_singleton.mpr (.intro ?_ ?_)⟩
  · exact Registry.All.insert .empty trivial
  · refine List.forall_mem_singleton.mpr (.intro ⟨nofun, nofun⟩ ?_)
    exact List.forall_mem_cons.mpr
      ⟨.intro trivial nofun, List.forall_mem_singleton.mpr (.intro trivial nofun)⟩
  · refine ⟨?_, nofun⟩
    rintro component same
    cases same
    trivial
  · exact List.forall_mem_singleton.mpr (.intro trivial nofun)

theorem render_keeps_text_emphasisedWords :
    emphasisedWords.Confined (Library.bold.Plain fun _ _ => True) ∅ ∧
      (emphasisedWords.render .bold 4 ∅).result = .ok emphasisedDocument ∧
      emphasisedDocument.textContent = String.join ["one ", "-inf", " three"] := by
  have rendered : (emphasisedWords.render .bold 4 ∅).result = .ok emphasisedDocument := rfl
  exact ⟨confined_emphasisedWords, rendered, (render_keeps_text confined_emphasisedWords rendered).1⟩

end Node
end Quire
