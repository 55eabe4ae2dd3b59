set_option autoImplicit false

/-!
Events worth a line in the log, and the record each one is written as.
-/

namespace Quire

inductive Level where
  | error
  | warn
  | info
  | debug
  | trace
  deriving DecidableEq

namespace Level

def label : Level → String
  | .error => "ERROR"
  | .warn => "WARN"
  | .info => "INFO"
  | .debug => "DEBUG"
  | .trace => "TRACE"

/-- Smaller ranks are more urgent. -/
def rank : Level → Nat
  | .error => 1
  | .warn => 2
  | .info => 3
  | .debug => 4
  | .trace => 5

def threshold? (name : String) : Option Nat :=
  if name.toLower = "off" then some 0
  else
    ([.error, .warn, .info, .debug, .trace].find? fun (level : Level) =>
      level.label = name.toUpper).map rank

end Level

inductive Origin where
  | explicit
  | workingDirectory
  | platform
  deriving DecidableEq

def Origin.label : Origin → String
  | .explicit => "Explicit"
  | .workingDirectory => "Local"
  | .platform => "System"

inductive Event where
  | mergingOverrides (count : Nat)
  | invokingComponent (name : String)
  | materializing (tag : String) (id : Nat)
  | passFinished (elements : Nat)
  | malformedAttribute (name : String)
  | renderingPage (id permalink : String)
  | registryBuilt (overrides : Nat)
  | pageTree
  | pageRendered (nodes : Nat)
  | processingPage (page format : String)
  | loadingConfiguration (origin : Origin) (path : String)
  | configurationNotFound (origin : Origin) (path : String)
  | noPlatformDirectory
  | noConfiguration
  | pageExported (path : String)
  deriving DecidableEq

structure Record where
  level : Level
  message : String
  fields : List (String × String)
  deriving DecidableEq

def Event.record : Event → Record
  | .mergingOverrides count =>
      ⟨.trace, "Merging registry overrides", [("overrides", toString count)]⟩
  | .invokingComponent name => ⟨.trace, "Invoking component", [("component", name)]⟩
  | .materializing tag id =>
      ⟨.trace, "Materializing host element", [("tag", tag), ("id", toString id)]⟩
  | .passFinished elements => ⟨.debug, "Render pass finished", [("elements", toString elements)]⟩
  | .malformedAttribute name =>
      ⟨.warn, "Skipping malformed attribute name", [("attribute", name)]⟩
  | .renderingPage id permalink =>
      ⟨.info, "Rendering page", [("page", id), ("permalink", permalink)]⟩
  | .registryBuilt overrides =>
      ⟨.debug, "Root registry built", [("overrides", toString overrides)]⟩
  | .pageTree => ⟨.trace, "Page tree", [("node", "")]⟩
  | .pageRendered nodes => ⟨.info, "Page rendered successfully", [("nodes", toString nodes)]⟩
  | .processingPage page format =>
      ⟨.info, "Processing page", [("page", page), ("format", format)]⟩
  | .loadingConfiguration origin path =>
      ⟨.info, "Loading configuration", [("origin", origin.label), ("path", path)]⟩
  | .configurationNotFound origin path =>
      ⟨.debug, "Configuration file not found", [("origin", origin.label), ("path", path)]⟩
  | .noPlatformDirectory =>
      ⟨.debug, "Could not determine platform-specific config directory", []⟩
  | .noConfiguration =>
      ⟨.debug, "No configuration file found, using default configuration", []⟩
  | .pageExported path => ⟨.info, "Page exported successfully", [("output_file", path)]⟩

def Record.line (record : Record) : String :=
  let fields := record.fields.map fun field => " " ++ field.1 ++ "=" ++ field.2
  "[" ++ record.level.label ++ "] " ++ record.message ++ String.join fields

structure Logged (α : Type) where
  value : α
  events : List Event

end Quire
