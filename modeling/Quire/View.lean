import Quire.Node

set_option autoImplicit false

/-!
Views: the registry that can be seen from a place in a tree, told apart from equal ones seen
elsewhere. Whoever keeps something that was computed from a view can reuse it as long as the view is
the same one.
-/

namespace Quire

/-- A registry in view. Views that were made apart have different marks, also when their registries
are equal. -/
structure View where
  registry : Registry
  mark : Nat

namespace View

/-- The view below a provider. One that changes nothing leaves the very same view; any other makes a
view with a mark of its own. -/
def below (view : View) (overrides : Overrides) (mark : Nat) : View :=
  match overrides.view? view.registry with
  | some registry => ⟨registry, mark⟩
  | none => view

def isSame (left right : View) : Bool :=
  left.mark == right.mark

end View
end Quire
