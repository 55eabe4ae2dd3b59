import Quire.Value

set_option autoImplicit false

/-!
Render trees: what a page or a component describes, before names are resolved.
-/

namespace Quire

inductive Reference where
  | named (name : Name)
  | direct (component : Component)
  deriving DecidableEq

def Reference.name? : Reference → Option Name
  | .named name => some name
  | .direct _ => none

/-- A handle that learns which host element an invocation became. Handles are told apart by their
labels. -/
structure Handle where
  label : String
  deriving DecidableEq

inductive Overrides where
  | map (registry : Registry)
  | compute (view : Registry → Registry)

inductive Node where
  | empty
  | text (content : String)
  | number (value : Number)
  /-- A composite that still has to be resolved to a component. -/
  | element (reference : Reference) (props : Props) (children : List Node)
      (handle : Option Handle)
  | host (tag : String) (attributes : Props) (children : List Node) (handle : Option Handle)
  | fragment (children : List Node)
  /-- Changes the registry in view for its children only. -/
  | provider (overrides : Overrides) (children : List Node)

instance : Inhabited Node := ⟨.empty⟩

structure Invocation where
  props : Props
  children : List Node
  handle : Option Handle

structure Element where
  reference : Reference
  props : Props
  children : List Node
  handle : Option Handle

namespace Overrides

def isEmpty : Overrides → Bool
  | .map registry => registry.isEmpty
  | .compute _ => false

/-- The registry seen below a provider, or `none` if the view stays the one it was. -/
def view? : Overrides → Registry → Option Registry
  | .map registry, outer => if registry.isEmpty then none else some (outer.merged registry)
  | .compute view, outer => some (view outer)

def view (overrides : Overrides) (outer : Registry) : Registry :=
  (overrides.view? outer).getD outer

end Overrides

namespace Node

def text? : Node → Option String
  | .text content => some content
  | .number value => some value.text
  | _ => none

def ofElement (element : Element) : Node :=
  .element element.reference element.props element.children element.handle

end Node

def componentsKey : String := "components"

def typeKey : String := "mdxType"

def parentKey : String := "parentName"

def routingKeys : List String := [componentsKey, typeKey, "originalType", parentKey]

/-- The element a compiled page writes for a reference. A name is also recorded as the element's
type hint, replacing any hint already there. -/
def Element.typed (reference : Reference) (props : Props) (children : List Node)
    (handle : Option Handle) : Element :=
  match reference with
  | .named name => ⟨reference, props.insert typeKey (.text name.text), children, handle⟩
  | .direct _ => ⟨reference, props, children, handle⟩

end Quire
