import Quire.Library
import Quire.Render
import Quire.Text.Quoted

set_option autoImplicit false

/-!
Short descriptions for people who debug a page.
-/

namespace Quire

def Registry.describe (registry : Registry) : String :=
  let names := registry.sorted.map fun binding => Text.quoted binding.1.text
  "\x7b" ++ ", ".intercalate names ++ "\x7d"

def Overrides.describe : Overrides → String
  | .map registry => "Map(" ++ registry.describe ++ ")"
  | .compute _ => "With(..)"

def Library.describe (library : Library) (component : Component) : String :=
  "Component(" ++ library.nameOf component ++ ")"

def Reference.describe (library : Library) : Reference → String
  | .named name => "Named(" ++ name.text ++ ")"
  | .direct component => "Direct(" ++ library.nameOf component ++ ")"

def describeId (id : Nat) : String :=
  "#" ++ toString id

def Handles.describe (handles : Handles) (handle : Handle) : String :=
  match handles handle with
  | none => "NodeRef(None)"
  | some id => "NodeRef(Some(ElementId(" ++ toString id ++ ")))"

end Quire
