import Quire.Value

set_option autoImplicit false

/-!
Rendered documents: trees of text and elements. The elements of a document are marked with their
ids.
-/

namespace Quire

/-- A tree of text and elements, each element marked with an `ι`. -/
inductive Tree (ι : Type) where
  | text (content : String)
  | element (id : ι) (tag : String) (attributes : Props) (children : List (Tree ι))

abbrev Document := List (Tree Nat)

namespace Tree

variable {ι : Type}

mutual

def textContent : Tree ι → String
  | .text content => content
  | .element _ _ _ children => textContentAll children
termination_by structural tree => tree

def textContentAll : List (Tree ι) → String
  | [] => ""
  | tree :: trees => tree.textContent ++ textContentAll trees
termination_by structural trees => trees

end

mutual

def find? (id : Nat) : Tree Nat → Option (Tree Nat)
  | .text _ => none
  | .element id' tag attributes children =>
      if id' = id then some (.element id' tag attributes children) else findAll? id children
termination_by structural tree => tree

def findAll? (id : Nat) : List (Tree Nat) → Option (Tree Nat)
  | [] => none
  | tree :: trees =>
      match tree.find? id with
      | some found => some found
      | none => findAll? id trees
termination_by structural trees => trees

end

def tag? : Tree ι → Option String
  | .text _ => none
  | .element _ tag _ _ => some tag

def id? : Tree ι → Option ι
  | .text _ => none
  | .element id _ _ _ => some id

def children : Tree ι → List (Tree ι)
  | .text _ => []
  | .element _ _ _ children => children

end Tree

namespace Document

def textContent (document : Document) : String :=
  Tree.textContentAll document

def find? (document : Document) (id : Nat) : Option (Tree Nat) :=
  Tree.findAll? id document

end Document
end Quire
