import Quire.Settings.Basic

set_option autoImplicit false

/-!
Settings that a site can be built with. Settings from a file are checked before any page is
rendered, so that a bad tag or depth never reaches a page.
-/

namespace Quire.Settings

inductive Fault where
  | badDepth (maxDepth : Nat)
  | badName (name : Name)
  | badTag (name : Name) (tag : String)
  | badAttribute (name : Name) (key : String)
  deriving DecidableEq

def Fault.message : Fault → String
  | .badDepth maxDepth =>
      "render.max_depth must be between 1 and " ++ toString maximalLimit ++ ", got " ++
        toString maxDepth
  | .badName name => "invalid component name `" ++ name.text ++ "`"
  | .badTag name tag => "component `" ++ name.text ++ "` has an invalid tag `" ++ tag ++ "`"
  | .badAttribute name key =>
      "component `" ++ name.text ++ "` has an invalid attribute name `" ++ key ++ "`"

def isComponentName (name : Name) : Bool :=
  name.segments.all fun segment => !segment.isEmpty

def componentFault? (name : Name) (host : HostSettings) : Option Fault :=
  if !isComponentName name then some (.badName name)
  else if !Tag.isValid host.tag then some (.badTag name host.tag)
  else (Html.malformed host.attributes).head?.map (.badAttribute name)

def fault? (settings : Settings) : Option Fault :=
  if settings.maxDepth < 1 ∨ maximalLimit < settings.maxDepth then
    some (.badDepth settings.maxDepth)
  else settings.components.findSome? fun binding => componentFault? binding.1 binding.2

end Quire.Settings
