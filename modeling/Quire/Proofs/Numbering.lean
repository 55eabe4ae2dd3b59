import Quire.Proofs.Expansion
import Quire.Proofs.Forest

set_option autoImplicit false

/-!
The ids of a rendered document are the positions of its elements in document order.

A host element takes its id before its children are expanded and joins the output after them. The
ids of a pass therefore form a segment that starts with the id the pass was given and ends before
the one it hands on, whatever providers, fragments and components lie between.
-/

namespace Quire

namespace Tree

private theorem find?_id_eq_getElem? {elements : List (Tree Nat)} {start : Nat}
    (numbered : elements.map id? = (List.range' start elements.length).map some) (position : Nat) :
    elements.find? (fun element => element.id? == some (start + position)) =
      elements[position]? := by
  induction elements generalizing start position with
  | nil => rfl
  | cons element elements ih =>
      simp only [List.map_cons, List.length_cons, List.range'_succ, List.cons.injEq] at numbered
      obtain ⟨first, rest⟩ := numbered
      cases position with
      | zero => simp [first]
      | succ position =>
          have later := ih rest position
          rw [Nat.add_right_comm, Nat.add_assoc] at later
          simpa [first] using later

end Tree

namespace Expands

variable {library : Library} {budget next final : Nat} {registry : Registry} {nodes : List Node}
  {steps : List Step} {trees : List (Tree Nat)}

theorem final_eq (expansion : Expands library budget registry next nodes steps trees final) :
    final = next + (Tree.elementsAll trees).length := by
  induction expansion with
  | nil => rfl
  | empty _ ih => exact ih
  | text _ ih | number _ ih => simpa [Tree.elementsAll, Tree.elements] using ih
  | fragment _ _ childrenIH restIH | provider _ _ childrenIH restIH
  | element _ _ _ childrenIH restIH =>
      simp only [Tree.elementsAll_append, List.length_append]
      omega
  | host _ _ _ childrenIH restIH =>
      simp only [Tree.elementsAll, Tree.elements, List.length_append, List.length_cons]
      omega

/-- A pass numbers its elements in document order, from the id it was given. -/
theorem ids_eq (expansion : Expands library budget registry next nodes steps trees final) :
    (Tree.elementsAll trees).map Tree.id? =
      (List.range' next (Tree.elementsAll trees).length).map some := by
  induction expansion with
  | nil => rfl
  | empty _ ih => exact ih
  | text _ ih | number _ ih => simpa [Tree.elementsAll, Tree.elements] using ih
  | fragment children _ childrenIH restIH | provider children _ childrenIH restIH
  | element _ children _ childrenIH restIH =>
      rw [Tree.elementsAll_append, List.map_append, childrenIH, restIH, children.final_eq,
        List.length_append, ← List.range'_append_1, List.map_append]
  | host _ children _ childrenIH restIH =>
      simp only [Tree.elementsAll, Tree.elements, List.cons_append, List.map_cons, List.map_append,
        List.length_cons, List.length_append, List.range'_succ]
      rw [childrenIH, restIH, children.final_eq, ← List.range'_append_1, List.map_append]
      rfl

theorem findAll?_eq_getElem?
    (expansion : Expands library budget registry 0 nodes steps trees final) (id : Nat) :
    Tree.findAll? id trees = (Tree.elementsAll trees)[id]? := by
  have found := Tree.find?_id_eq_getElem? expansion.ids_eq id
  rw [Nat.zero_add] at found
  rw [Tree.findAll?_eq, found]

end Expands

def Library.doubling : Library where
  configured _ := .fragment
  custom _ := .custom "Twice" fun invocation =>
    .ok (.fragment (invocation.children ++ invocation.children))

namespace Node

variable {library : Library} {limit : Nat} {registry : Registry} {node : Node}
  {document : Document}

/-- The ids of a rendered document count its elements in document order: they are distinct, the
pass ends with their number, and looking an id up finds the element at that position. -/
theorem render_numbers_in_document_order
    (rendered : (node.render library limit registry).result = .ok document) :
    document.elements.map Tree.id? = (List.range document.elements.length).map some ∧
      (document.elements.map Tree.id?).Nodup ∧
      (∃ steps,
        (node.expand library (effectiveLimit limit) (effectiveLimit limit + 1) registry).run 0 =
          ⟨steps, .ok (document, document.elements.length)⟩) ∧
      ∀ id, document.find? id = document.elements[id]? := by
  obtain ⟨steps, final, expansion⟩ := expands_of_render rendered
  have ids : document.elements.map Tree.id? = (List.range document.elements.length).map some := by
    rw [List.range_eq_range']
    exact expansion.ids_eq
  have counted : final = document.elements.length :=
    expansion.final_eq.trans (Nat.zero_add _)
  refine ⟨ids, ?_, ⟨steps, ?_⟩, ?_⟩
  · rw [ids]
    exact List.Pairwise.map some (fun _ _ different same => different (Option.some.inj same))
      List.nodup_range
  · rw [← counted]
    exact (Expands.singleton_iff_run _).mp expansion
  · intro id
    have found := Tree.find?_id_eq_getElem? expansion.ids_eq id
    rw [Nat.zero_add, ← Tree.findAll?_eq] at found
    exact found

def doubledParagraph : Node :=
  .element (.direct (.custom 0)) ∅ [.host "p" ∅ [.host "b" ∅ [] none] none] none

def doubledDocument : Document :=
  [.element 0 "p" ∅ [.element 1 "b" ∅ []], .element 2 "p" ∅ [.element 3 "b" ∅ []]]

theorem render_numbers_doubledParagraph :
    (doubledParagraph.render .doubling 3 ∅).result = .ok doubledDocument ∧
      doubledDocument.elements.map Tree.id? =
        (List.range doubledDocument.elements.length).map some ∧
      doubledDocument.find? 3 = doubledDocument.elements[3]? := by
  have rendered : (doubledParagraph.render .doubling 3 ∅).result = .ok doubledDocument := rfl
  obtain ⟨ids, -, -, found⟩ := render_numbers_in_document_order rendered
  exact ⟨rendered, ids, found 3⟩

end Node
end Quire
