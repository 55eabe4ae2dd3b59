import Quire.Name

set_option autoImplicit false

/-!
Why a page or a component cannot be rendered.
-/

namespace Quire

inductive RenderError where
  /-- Nothing is registered under the name, and it is no plain element either. -/
  | unresolved (name : Name)
  | invalidReference (key : String)
  | invalidTag (tag : String)
  | depthExceeded (limit : Nat)
  | component (name message : String)
  deriving DecidableEq

def RenderError.message : RenderError → String
  | .unresolved name => "no component registered for `" ++ name.text ++ "`"
  | .invalidReference key => "routing key `" ++ key ++ "` must hold a component name"
  | .invalidTag tag => "`" ++ tag ++ "` is not a valid element name"
  | .depthExceeded limit => "render depth limit of " ++ toString limit ++ " exceeded"
  | .component name message => "component `" ++ name ++ "` failed: " ++ message

end Quire
