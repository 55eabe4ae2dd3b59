import Quire.Name

set_option autoImplicit false

/-!
Components are known by identity: two components are the same exactly when these values are equal.
What a component does when it is invoked is looked up in a library.
-/

namespace Quire

inductive Component where
  | builtin (name : Name)
  /-- A bare host element, made for a tag that nothing is registered under. -/
  | plain (tag : String)
  | configured (name : Name)
  | custom (id : Nat)
  deriving DecidableEq

end Quire
