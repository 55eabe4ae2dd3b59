import Quire.Text.Split

set_option autoImplicit false

/-!
Names under which components are registered. A name may be qualified by the name of the component
it stands in: `p.strong` is `strong` inside `p`.
-/

namespace Quire

structure Name where
  text : String
  deriving DecidableEq

namespace Name

def qualify (parent child : Name) : Name :=
  ⟨parent.text ++ "." ++ child.text⟩

def segments (name : Name) : List String :=
  Text.splitAt '.' name.text

def ordered (left right : Name) : Bool :=
  left.text ≤ right.text

end Name
end Quire
