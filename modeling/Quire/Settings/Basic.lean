import Quire.Html
import Quire.Library
import Quire.Render

set_option autoImplicit false

/-!
Site settings: how deep pages may nest, how they are written, and which host elements stand in for
component names.
-/

namespace Quire

structure HostSettings where
  tag : String
  attributes : Props

structure Settings where
  maxDepth : Nat
  output : Html.Options
  components : List (Name × HostSettings)
  distinct : (components.map Prod.fst).Nodup

namespace Settings

def default : Settings :=
  { maxDepth := defaultLimit, output := ⟨false, false⟩, components := [], distinct := List.nodup_nil }

instance : Inhabited Settings := ⟨default⟩

def withComponent (settings : Settings) (name : Name) (host : HostSettings) : Settings :=
  { settings with
    components := putBy Prod.fst (name, host) settings.components
    distinct := nodup_putBy settings.distinct (name, host) }

def registry (settings : Settings) : Registry :=
  .ofList (settings.components.map fun binding => (binding.1, .configured binding.1))

def implementation (settings : Settings) (name : Name) : Implementation :=
  match settings.components.lookup name with
  | some host => .host host.tag host.attributes
  | none => .host name.text ∅

def library (settings : Settings) (custom : Nat → Implementation) : Library :=
  { configured := settings.implementation, custom := custom }

end Settings
end Quire
