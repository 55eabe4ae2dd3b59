import Quire.Html
import Quire.Page.Basic
import Quire.Settings.Basic

set_option autoImplicit false

/-!
Rendering pages under the settings of a site.
-/

namespace Quire.Page

/-- Renders a page. The configured host elements are the registry in view; `custom` says what the
caller's own components do. -/
def render (settings : Settings) (custom : Nat → Implementation) (page : Page) (props : Props) :
    Rendering :=
  let registry := settings.registry
  let rendering := (page.body props).render (settings.library custom) settings.maxDepth registry
  let before : List Event :=
    [.renderingPage page.metadata.id page.metadata.permalink, .registryBuilt registry.size,
      .pageTree]
  let after : List Event :=
    match rendering.result with
    | .ok document => [.pageRendered document.length]
    | .error _ => []
  { rendering with events := before ++ rendering.events ++ after }

def html (settings : Settings) (custom : Nat → Implementation) (page : Page) (props : Props) :
    Logged (Except RenderError String) :=
  let rendering := page.render settings custom props
  match rendering.result with
  | .ok document =>
      ⟨.ok (document.html settings.output), rendering.events ++ document.htmlEvents⟩
  | .error error => ⟨.error error, rendering.events⟩

end Quire.Page
