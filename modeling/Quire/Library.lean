import Quire.Node
import Quire.RenderError
import Quire.Tag

set_option autoImplicit false

/-!
What components do. A library gives every component of the caller and of the site settings its
implementation; the built-in components and plain host elements are the same everywhere.
-/

namespace Quire

inductive Implementation where
  /-- An element of the output. Properties of the invocation win over the default attributes. -/
  | host (tag : String) (attributes : Props)
  | fragment
  | custom (name : String) (run : Invocation → Except RenderError Node)

namespace Implementation

def name : Implementation → String
  | .host tag _ => tag
  | .fragment => "Fragment"
  | .custom name _ => name

def invoke : Implementation → Invocation → Except RenderError Node
  | .host tag attributes, invocation =>
      .ok (.host tag (Bag.mergeWithSymbols [some attributes, some invocation.props])
        invocation.children invocation.handle)
  | .fragment, invocation => .ok (.fragment invocation.children)
  | .custom _ run, invocation => run invocation

end Implementation

structure Library where
  configured : Name → Implementation
  custom : Nat → Implementation

namespace Builtin

def tags : List String :=
  ["h1", "h2", "h3", "h4", "h5", "h6", "p", "pre", "code", "strong", "em", "del", "a", "img",
    "ul", "ol", "li", "blockquote", "hr", "br", "table", "thead", "tbody", "tr", "th", "td",
    "div", "span", "sup"]

def aliases : List (String × String) :=
  [("inlineCode", "code"), ("delete", "del"), ("thematicBreak", "hr")]

/-- The name of a page's layout, which adds no element of its own. -/
def wrapper : String := "wrapper"

def names : List Name :=
  (tags ++ aliases.map Prod.fst ++ [wrapper]).map Name.mk

def implementation (name : Name) : Implementation :=
  if name.text = wrapper then .fragment
  else .host ((aliases.lookup name.text).getD name.text) ∅

def find? (name : Name) : Option Component :=
  if names.contains name then some (.builtin name) else none

def registry : Registry :=
  .ofList (names.map fun name => (name, .builtin name))

end Builtin

namespace Component

/-- The host element for a name that nothing is registered under. Only lowercase tags qualify. -/
def plain? (name : Name) : Option Component :=
  if Tag.isLowercase name.text then some (.plain name.text) else none

end Component

namespace Library

def implementation (library : Library) : Component → Implementation
  | .builtin name => Builtin.implementation name
  | .plain tag => .host tag ∅
  | .configured name => library.configured name
  | .custom id => library.custom id

def nameOf (library : Library) (component : Component) : String :=
  (library.implementation component).name

def invoke (library : Library) (component : Component) (invocation : Invocation) :
    Except RenderError Node :=
  (library.implementation component).invoke invocation

end Library
end Quire
