import Quire.Document

set_option autoImplicit false

/-!
Documents as forests: induction over lists of trees, and their elements in document order.
-/

namespace Quire

namespace Tree

variable {ι : Type}

/-- Induction over a list of trees that goes into the children of its first tree and on to the
trees after it. -/
@[elab_as_elim] theorem forestInduction {motive : List (Tree ι) → Prop} (nil : motive [])
    (text : ∀ content trees, motive trees → motive (.text content :: trees))
    (element : ∀ id tag attributes children trees, motive children → motive trees →
      motive (.element id tag attributes children :: trees))
    (trees : List (Tree ι)) : motive trees :=
  match trees with
  | [] => nil
  | .text content :: trees => text content trees (forestInduction nil text element trees)
  | .element id tag attributes children :: trees =>
      element id tag attributes children trees (forestInduction nil text element children)
        (forestInduction nil text element trees)

mutual

def elements : Tree ι → List (Tree ι)
  | .text _ => []
  | .element id tag attributes children =>
      .element id tag attributes children :: elementsAll children
termination_by structural tree => tree

def elementsAll : List (Tree ι) → List (Tree ι)
  | [] => []
  | tree :: trees => tree.elements ++ elementsAll trees
termination_by structural trees => trees

end

@[simp] theorem elementsAll_append (trees others : List (Tree ι)) :
    elementsAll (trees ++ others) = elementsAll trees ++ elementsAll others := by
  induction trees with
  | nil => rfl
  | cons tree trees ih => simp [elementsAll, ih]

theorem findAll?_eq (id : Nat) (trees : List (Tree Nat)) :
    findAll? id trees = (elementsAll trees).find? fun element => element.id? == some id := by
  induction trees using forestInduction with
  | nil => rfl
  | text content trees ih => exact ih
  | element own tag attributes children trees childrenIH treesIH =>
      by_cases same : own = id
      · simp [findAll?, find?, elementsAll, elements, id?, same]
      · simp only [findAll?, find?, elementsAll, elements, if_neg same, List.cons_append]
        rw [List.find?_cons_of_neg (by simpa [id?] using same), List.find?_append, ← treesIH,
          ← childrenIH]
        cases findAll? id children <;> rfl

end Tree

namespace Document

def elements (document : Document) : List (Tree Nat) :=
  Tree.elementsAll document

end Document
end Quire
