import Quire.Settings.Basic
import Quire.Toml.Document

set_option autoImplicit false

/-!
Settings from a TOML document.

The sections `render` and `output` and the entries of `components` may be written as tables or as
arrays of their fields in order. Keys that mean nothing are ignored, but their numbers have to be
in range. What an array has beyond its fields is never looked at.
-/

namespace Quire.Settings

/-- The key under which a date or time is kept in a map. -/
def momentKey : String := "$__toml_private_datetime"

def sectionFields? (names : List String) : Toml.Value → Option (List (String × Toml.Value))
  | .table entries =>
      if entries.all fun entry => names.contains entry.1 || entry.2.inRange then some entries
      else none
  | .array items => some (names.zip items)
  | .moment content => some [(momentKey, .text content)]
  | _ => none

def fieldOr {α : Type} (fallback : α) (read : Toml.Value → Option α) (name : String)
    (fields : List (String × Toml.Value)) : Option α :=
  match fields.lookup name with
  | some value => read value
  | none => some fallback

def readDepth? : Toml.Value → Option Nat
  | .integer value => if 0 ≤ value ∧ value < Int.pow 2 64 then some value.toNat else none
  | _ => none

def readBool? : Toml.Value → Option Bool
  | .bool value => some value
  | _ => none

def readText? : Toml.Value → Option String
  | .text content => some content
  | _ => none

def isPropertyInteger (value : Int) : Bool :=
  -Int.pow 2 63 ≤ value && value < Int.pow 2 64

def sortedProps (entries : List (String × Value)) : Props :=
  Bag.ofList (Toml.sortEntries entries)

mutual

def readValue? : Toml.Value → Option Value
  | .text content => some (.text content)
  | .integer value =>
      if isPropertyInteger value then some (.number (.ofInt value)) else none
  | .float value => some (.number value)
  | .unreadable => none
  | .bool value => some (.bool value)
  | .moment content => some (.map (Bag.ofList [(momentKey, .text content)]))
  | .array items => (readItems? items).map Value.list
  | .table entries => (readEntries? entries).map fun entries => .map (sortedProps entries)
termination_by structural value => value

def readItems? : List Toml.Value → Option (List Value)
  | [] => some []
  | item :: items => do
      let value ← readValue? item
      return value :: (← readItems? items)
termination_by structural items => items

def readEntries? : List (String × Toml.Value) → Option (List (String × Value))
  | [] => some []
  | (key, item) :: entries => do
      let value ← readValue? item
      return (key, value) :: (← readEntries? entries)
termination_by structural entries => entries

end

def readProps? (value : Toml.Value) : Option Props :=
  match readValue? value with
  | some (.map props) => some props
  | _ => none

def readHost? (value : Toml.Value) : Option HostSettings := do
  let fields ← sectionFields? ["tag", "attributes"] value
  let tag ← (fields.lookup "tag").bind readText?
  let attributes ← fieldOr ∅ readProps? "attributes" fields
  return ⟨tag, attributes⟩

/-- Components are a table, never an array, and come in the order of their names. -/
def readComponents? : Toml.Value → Option (List (Name × HostSettings))
  | .table entries =>
      (Toml.sortEntries entries).mapM fun entry => do
        return (⟨entry.1⟩, ← readHost? entry.2)
  | _ => none

def readRender? (value : Toml.Value) : Option Nat := do
  fieldOr defaultLimit readDepth? "max_depth" (← sectionFields? ["max_depth"] value)

def readOutput? (value : Toml.Value) : Option Html.Options := do
  let fields ← sectionFields? ["pretty", "doctype"] value
  let pretty ← fieldOr false readBool? "pretty" fields
  let doctype ← fieldOr false readBool? "doctype" fields
  return ⟨pretty, doctype⟩

def ofEntries? (entries : List (String × Toml.Value)) : Option Settings := do
  let fields ← sectionFields? ["render", "output", "components"] (.table entries)
  let plain : Settings := {
    Settings.default with
    maxDepth := ← fieldOr defaultLimit readRender? "render" fields
    output := ← fieldOr ⟨false, false⟩ readOutput? "output" fields }
  let components ← fieldOr [] readComponents? "components" fields
  return components.foldl (fun settings binding => settings.withComponent binding.1 binding.2) plain

def ofToml? (text : String) : Option Settings := do
  ofEntries? (← Toml.read? text)

end Quire.Settings
