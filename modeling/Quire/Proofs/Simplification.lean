import Mathlib.Logic.Relation
import Quire.Proofs.DepthLimit

set_option autoImplicit false

/-!
Fragments, empty providers, empty nodes and numbers leave no trace in a document.

A tree is simplified when the children of a fragment, or of a provider without bindings, take the
place of the node around them, when an empty node is dropped, or when a number is written out. This
can be done wherever only fragments, providers and host nodes stand around the place; what an element
holds is left alone, since its component may look at it. What rendered before renders to the same
document afterwards, with at most as much nesting.
-/

namespace Quire

namespace Overrides

private theorem view_of_isEmpty {overrides : Overrides} (vacant : overrides.isEmpty = true)
    (registry : Registry) : overrides.view registry = registry := by
  cases overrides with
  | map added => simp [view, view?, show added.isEmpty = true from vacant]
  | compute view => cases vacant

private theorem steps_of_isEmpty {overrides : Overrides} (vacant : overrides.isEmpty = true) :
    overrides.steps = [] := by
  cases overrides with
  | map added => exact if_pos vacant
  | compute view => cases vacant

end Overrides

inductive Frame where
  | fragment
  | provider (overrides : Overrides)
  | host (tag : String) (attributes : Props) (handle : Option Handle)

def Frame.fill (children : List Node) : Frame → Node
  | .fragment => .fragment children
  | .provider overrides => .provider overrides children
  | .host tag attributes handle => .host tag attributes children handle

inductive Simplifies : List Node → List Node → Prop where
  | fragment {children rest} : Simplifies (.fragment children :: rest) (children ++ rest)
  | provider {overrides children rest} :
      overrides.isEmpty = true →
      Simplifies (.provider overrides children :: rest) (children ++ rest)
  | empty {rest} : Simplifies (.empty :: rest) rest
  | number {value rest} : Simplifies (.number value :: rest) (.text value.text :: rest)
  | inside {frame : Frame} {children simpler rest} :
      Simplifies children simpler →
      Simplifies (frame.fill children :: rest) (frame.fill simpler :: rest)
  | later {node rest simpler} :
      Simplifies rest simpler → Simplifies (node :: rest) (node :: simpler)

/-- One simplification somewhere in a tree. The root stays where it is. -/
inductive Node.Simplifies : Node → Node → Prop where
  | number {value} : Simplifies (.number value) (.text value.text)
  | inside {frame : Frame} {children simpler} :
      Quire.Simplifies children simpler →
      Simplifies (frame.fill children) (frame.fill simpler)

namespace Expands

variable {library : Library} {budget next final : Nat} {registry : Registry}
  {node simplerNode : Node} {nodes simpler : List Node} {steps : List Step}
  {trees : List (Tree Nat)}

private theorem simplify (expansion : Expands library budget registry next nodes steps trees final)
    (simplifies : Simplifies nodes simpler) :
    Expands library budget registry next simpler steps trees final := by
  induction simplifies generalizing budget registry next steps trees final with
  | fragment =>
      cases expansion with
      | fragment children rest => exact (children.of_le (Nat.le_succ _)).append rest
  | provider vacant =>
      cases expansion with
      | provider children rest =>
          rw [Overrides.view_of_isEmpty vacant] at children
          rw [Overrides.steps_of_isEmpty vacant]
          exact (children.of_le (Nat.le_succ _)).append rest
  | empty =>
      cases expansion with
      | empty rest => exact rest
  | number =>
      cases expansion with
      | number rest => exact .text rest
  | @inside frame _ _ _ _ ih =>
      cases frame with
      | fragment =>
          cases expansion with
          | fragment children rest => exact .fragment (ih children) rest
      | provider overrides =>
          cases expansion with
          | provider children rest => exact .provider (ih children) rest
      | host tag attributes handle =>
          cases expansion with
          | host valid children rest => exact .host valid (ih children) rest
  | later _ ih =>
      obtain ⟨_, _, _, _, _, first, rest, rfl, rfl⟩ := expansion.uncons
      exact first.cons (ih rest)

private theorem simplifyTree
    (expansion : Expands library budget registry next [node] steps trees final)
    (simplified : Relation.ReflTransGen Node.Simplifies node simplerNode) :
    Expands library budget registry next [simplerNode] steps trees final := by
  induction simplified with
  | refl => exact expansion
  | tail _ step ih =>
      cases step with
      | number => exact ih.simplify .number
      | inside simplifies => exact ih.simplify (.inside simplifies)

end Expands

namespace Node

@[elab_as_elim] theorem nodesInduction {motive : List Node → Prop} (nil : motive [])
    (empty : ∀ rest, motive rest → motive (.empty :: rest))
    (text : ∀ content rest, motive rest → motive (.text content :: rest))
    (number : ∀ value rest, motive rest → motive (.number value :: rest))
    (element : ∀ reference props children handle rest, motive children → motive rest →
      motive (.element reference props children handle :: rest))
    (inside : ∀ (frame : Frame) children rest, motive children → motive rest →
      motive (frame.fill children :: rest))
    (nodes : List Node) : motive nodes :=
  match nodes with
  | [] => nil
  | .empty :: rest => empty rest (nodesInduction nil empty text number element inside rest)
  | .text content :: rest =>
      text content rest (nodesInduction nil empty text number element inside rest)
  | .number value :: rest =>
      number value rest (nodesInduction nil empty text number element inside rest)
  | .element reference props children handle :: rest =>
      element reference props children handle rest
        (nodesInduction nil empty text number element inside children)
        (nodesInduction nil empty text number element inside rest)
  | .host tag attributes children handle :: rest =>
      inside (.host tag attributes handle) children rest
        (nodesInduction nil empty text number element inside children)
        (nodesInduction nil empty text number element inside rest)
  | .fragment children :: rest =>
      inside .fragment children rest
        (nodesInduction nil empty text number element inside children)
        (nodesInduction nil empty text number element inside rest)
  | .provider overrides children :: rest =>
      inside (.provider overrides) children rest
        (nodesInduction nil empty text number element inside children)
        (nodesInduction nil empty text number element inside rest)

mutual

/-- What is left in the place of a node when everything that leaves no trace is taken away. -/
def flatten : Node → List Node
  | .empty => []
  | .text content => [.text content]
  | .number value => [.text value.text]
  | .element reference props children handle => [.element reference props children handle]
  | .host tag attributes children handle => [.host tag attributes (flattenAll children) handle]
  | .fragment children => flattenAll children
  | .provider overrides children =>
      if overrides.isEmpty then flattenAll children
      else [.provider overrides (flattenAll children)]
termination_by structural node => node

def flattenAll : List Node → List Node
  | [] => []
  | node :: nodes => node.flatten ++ flattenAll nodes
termination_by structural nodes => nodes

end

def flattened : Node → Node
  | .number value => .text value.text
  | .host tag attributes children handle => .host tag attributes (flattenAll children) handle
  | .fragment children => .fragment (flattenAll children)
  | .provider overrides children => .provider overrides (flattenAll children)
  | .empty => .empty
  | .text content => .text content
  | .element reference props children handle => .element reference props children handle

/-- A node that no simplification takes out of a list of children, with nothing below it that one
would take out either. -/
inductive Stays : Node → Prop where
  | text {content} : Stays (.text content)
  | element {reference props children handle} : Stays (.element reference props children handle)
  | provider {overrides children} :
      overrides.isEmpty = false → (∀ child ∈ children, Stays child) →
      Stays (.provider overrides children)
  | host {tag attributes children handle} :
      (∀ child ∈ children, Stays child) → Stays (.host tag attributes children handle)

inductive Flat : Node → Prop where
  | empty : Flat .empty
  | text {content} : Flat (.text content)
  | element {reference props children handle} : Flat (.element reference props children handle)
  | inside (frame : Frame) {children} :
      (∀ child ∈ children, Stays child) → Flat (frame.fill children)

private theorem flattenAll_append (nodes others : List Node) :
    flattenAll (nodes ++ others) = flattenAll nodes ++ flattenAll others := by
  induction nodes with
  | nil => rfl
  | cons node nodes ih => rw [List.cons_append, flattenAll, ih, flattenAll, List.append_assoc]

private theorem flatten_congr {children simpler : List Node}
    (same : flattenAll simpler = flattenAll children) (frame : Frame) :
    (frame.fill simpler).flatten = (frame.fill children).flatten := by
  cases frame with
  | fragment => exact same
  | provider overrides => simp only [Frame.fill, flatten, same]
  | host tag attributes handle => simp only [Frame.fill, flatten, same]

private theorem stays_flattenAll (nodes : List Node) : ∀ node ∈ flattenAll nodes, node.Stays := by
  induction nodes using nodesInduction with
  | nil => nofun
  | empty rest ih => exact ih
  | text content rest ih => exact List.forall_mem_cons.mpr ⟨.text, ih⟩
  | number value rest ih => exact List.forall_mem_cons.mpr ⟨.text, ih⟩
  | element reference props children handle rest _ ih =>
      exact List.forall_mem_cons.mpr ⟨.element, ih⟩
  | inside frame children rest childrenIH restIH =>
      refine List.forall_mem_append.mpr ⟨?_, restIH⟩
      cases frame with
      | fragment => exact childrenIH
      | host tag attributes handle => exact List.forall_mem_singleton.mpr (.host childrenIH)
      | provider overrides =>
          simp only [Frame.fill, flatten]
          split
          · exact childrenIH
          · rename_i kept
            exact List.forall_mem_singleton.mpr
              (.provider (Bool.eq_false_iff.mpr kept) childrenIH)

private theorem flat_flattened (node : Node) : node.flattened.Flat := by
  cases node with
  | empty => exact .empty
  | text content => exact .text
  | number value => exact .text
  | element reference props children handle => exact .element
  | fragment children => exact .inside .fragment (stays_flattenAll children)
  | provider overrides children =>
      exact .inside (.provider overrides) (stays_flattenAll children)
  | host tag attributes children handle =>
      exact .inside (.host tag attributes handle) (stays_flattenAll children)

end Node

namespace Simplifies

open Node Relation

variable {nodes simpler children : List Node}

private theorem flattenAll_eq (simplifies : Simplifies nodes simpler) :
    flattenAll simpler = flattenAll nodes := by
  induction simplifies with
  | fragment => exact flattenAll_append _ _
  | provider vacant =>
      rw [flattenAll_append, flattenAll, flatten, if_pos vacant]
  | empty => rfl
  | number => rfl
  | inside _ ih => rw [flattenAll, flattenAll, flatten_congr ih]
  | later _ ih => rw [flattenAll, flattenAll, ih]

private theorem later_all (simplified : ReflTransGen Simplifies nodes simpler) (earlier : List Node) :
    ReflTransGen Simplifies (earlier ++ nodes) (earlier ++ simpler) := by
  induction earlier with
  | nil => exact simplified
  | cons node earlier ih => exact ih.lift (node :: ·) fun _ _ => .later

private theorem inside_all (simplified : ReflTransGen Simplifies children simpler) (frame : Frame)
    (rest : List Node) :
    ReflTransGen Simplifies (frame.fill children :: rest) (frame.fill simpler :: rest) :=
  simplified.lift (fun children => frame.fill children :: rest) fun _ _ => .inside

private theorem unfold_frame (children : List Node) (frame : Frame) (rest : List Node) :
    ReflTransGen Simplifies (frame.fill (flattenAll children) :: rest)
      ((frame.fill children).flatten ++ rest) := by
  cases frame with
  | fragment => exact .single .fragment
  | host tag attributes handle => exact .refl
  | provider overrides =>
      simp only [Frame.fill, flatten]
      split
      · rename_i vacant
        exact .single (.provider vacant)
      · exact .refl

private theorem reaches_flattenAll (nodes : List Node) :
    ReflTransGen Simplifies nodes (flattenAll nodes) := by
  induction nodes using nodesInduction with
  | nil => exact .refl
  | empty rest ih => exact .head .empty ih
  | text content rest ih => exact later_all ih [.text content]
  | number value rest ih => exact .head .number (later_all ih [.text value.text])
  | element reference props children handle rest _ ih =>
      exact later_all ih [.element reference props children handle]
  | inside frame children rest childrenIH restIH =>
      have inner := inside_all childrenIH frame rest
      exact (inner.trans (unfold_frame children frame rest)).trans (later_all restIH _)

end Simplifies

namespace Node

open Relation

private theorem Simplifies.flattened_eq {node simpler : Node} (simplifies : node.Simplifies simpler) :
    simpler.flattened = node.flattened := by
  cases simplifies with
  | number => rfl
  | @inside frame _ _ simplifies =>
      have same := simplifies.flattenAll_eq
      cases frame <;> simp only [Frame.fill, flattened, same]

private theorem reaches_flattened (node : Node) : ReflTransGen Simplifies node node.flattened := by
  have inside : ∀ (frame : Frame) children,
      ReflTransGen Simplifies (frame.fill children) (frame.fill (flattenAll children)) := by
    intro frame children
    exact (Simplifies.reaches_flattenAll children).lift frame.fill fun _ _ => .inside
  cases node with
  | empty => exact .refl
  | text content => exact .refl
  | number value => exact .single .number
  | element reference props children handle => exact .refl
  | fragment children => exact inside .fragment children
  | provider overrides children => exact inside (.provider overrides) children
  | host tag attributes children handle => exact inside (.host tag attributes handle) children

/-- What leaves no trace in a document can be taken away. However a tree is simplified, if it rendered
to a document, then the simpler tree renders to that document and leaves every handle where it was.
Any simplification can be carried on until nothing is left that could be taken away, and what it then
comes to does not depend on the order. -/
theorem render_simplified {node simpler : Node}
    (simplified : ReflTransGen Simplifies node simpler) :
    (∀ library limit registry document,
      (node.render library limit registry).result = .ok document →
      (simpler.render library limit registry).result = .ok document ∧
        ∀ before, (simpler.render library limit registry).handles before =
          (node.render library limit registry).handles before) ∧
    ReflTransGen Simplifies simpler node.flattened ∧ node.flattened.Flat := by
  refine ⟨?_, ?_, flat_flattened node⟩
  · intro library limit registry document rendered
    obtain ⟨steps, final, expansion⟩ := expands_of_render rendered
    obtain ⟨-, stepsBefore⟩ := render_of_expands expansion
    obtain ⟨result, stepsAfter⟩ := render_of_expands (expansion.simplifyTree simplified)
    refine ⟨result, fun before => ?_⟩
    rw [Rendering.handles, Rendering.handles, stepsBefore, stepsAfter]
  · have same : simpler.flattened = node.flattened := by
      induction simplified with
      | refl => rfl
      | tail _ step ih => exact step.flattened_eq.trans ih
    rw [← same]
    exact reaches_flattened simpler

def layeredWords : Node :=
  .host "p" ∅
    [.element (.named ⟨"b"⟩) ∅ [.fragment [.text "kept"]] none,
      .fragment [.empty, .provider (.map ∅) [.text "minus ", .number (.infinite true)]]]
    (some ⟨"words"⟩)

def plainWords : Node :=
  .host "p" ∅
    [.element (.named ⟨"b"⟩) ∅ [.fragment [.text "kept"]] none, .text "minus ", .text "-inf"]
    (some ⟨"words"⟩)

def wordsDocument : Document :=
  [.element 0 "p" ∅ [.element 1 "b" ∅ [.text "kept"], .text "minus ", .text "-inf"]]

theorem render_simplified_layeredWords :
    ReflTransGen Simplifies layeredWords plainWords ∧
      (layeredWords.render .looping 4 ∅).result = .ok wordsDocument ∧
      (plainWords.render .looping 4 ∅).result = .ok wordsDocument ∧
      (plainWords.render .looping 4 ∅).handles .empty ⟨"words"⟩ = some 0 ∧ plainWords.Flat := by
  have simplified : ReflTransGen Simplifies layeredWords plainWords := reaches_flattened layeredWords
  have rendered : (layeredWords.render .looping 4 ∅).result = .ok wordsDocument := rfl
  obtain ⟨same, -, flat⟩ := render_simplified simplified
  obtain ⟨result, handles⟩ := same .looping 4 ∅ wordsDocument rendered
  exact ⟨simplified, rendered, result, congrFun (handles .empty) ⟨"words"⟩, flat⟩

end Node
end Quire
