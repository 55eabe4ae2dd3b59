import Quire.Expansion
import Quire.Library

set_option autoImplicit false

/-!
From a reference to a component, and from an element to an invocation.

A name is looked up in the registry in view, first qualified by the name of the component it
stands in and then plain; after that come the built-in components. What is left over is the
component that a direct reference carries, or a plain host element for a lowercase tag.
-/

namespace Quire

def Registry.lookup? (registry : Registry) (name : Name) (parent : Option Name) :
    Option Component :=
  ((parent.bind fun parent => registry.find? (parent.qualify name)).or
    (registry.find? name)).or (Builtin.find? name)

def Reference.fallback (reference : Reference) (name : Name) : Except RenderError Component :=
  match reference with
  | .direct component => .ok component
  | .named _ =>
      match Component.plain? name with
      | some component => .ok component
      | none => .error (.unresolved name)

def Registry.resolve (registry : Registry) (reference : Reference) (parent : Option Name) :
    Except RenderError Component :=
  match reference with
  | .direct component => .ok component
  | .named name =>
      match registry.lookup? name parent with
      | some component => .ok component
      | none => reference.fallback name

structure Hints where
  components : Option Registry
  parent : Option Name
  type : Option Name

namespace Hints

def registryOf (props : Props) (key : String) : Except RenderError (Option Registry) :=
  match props.get? key with
  | none | some .null => .ok none
  | some (.components registry) => .ok (some registry)
  | some _ => .error (.invalidReference key)

def nameOf (props : Props) (key : String) : Except RenderError (Option Name) :=
  match props.get? key with
  | none | some .null => .ok none
  | some (.text name) => .ok (some ⟨name⟩)
  | some _ => .error (.invalidReference key)

/-- Reads the routing properties; the first malformed one is reported. -/
def ofProps (props : Props) : Except RenderError Hints := do
  let components ← registryOf props componentsKey
  let parent ← nameOf props parentKey
  let type ← nameOf props typeKey
  return ⟨components, parent, type⟩

/-- The registry an element is looked up in: its own bindings, if there are any, over those in view. -/
def view (hints : Hints) (registry : Registry) : Registry :=
  match hints.components with
  | some own => if own.isEmpty then registry else registry.merged own
  | none => registry

end Hints

namespace Element

def component (element : Element) (hints : Hints) (registry : Registry) :
    Except RenderError Component :=
  let view := hints.view registry
  match hints.type.or element.reference.name? with
  | some name =>
      match view.lookup? name hints.parent with
      | some component => .ok component
      | none => element.reference.fallback name
  | none => view.resolve element.reference hints.parent

/-- The properties handed to the component: all but the routing ones, and then the element's own
registry if it has one. -/
def forwarded (element : Element) (hints : Hints) : Props :=
  let rest := element.props.without routingKeys
  match hints.components with
  | some own => rest.insert componentsKey (.components own)
  | none => rest

def dispatch (library : Library) (registry : Registry) (element : Element) : Expansion Node := do
  let hints ← .ofResult (Hints.ofProps element.props)
  let component ← .ofResult (element.component hints registry)
  .record [.invoked component]
  .ofResult (library.invoke component
    ⟨element.forwarded hints, element.children, element.handle⟩)

end Element
end Quire
