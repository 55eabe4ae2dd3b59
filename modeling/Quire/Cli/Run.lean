import Quire.Cli.Arguments
import Quire.Cli.Disk
import Quire.Failure
import Quire.Page.Rendering
import Quire.Settings.Check

set_option autoImplicit false

/-!
A run of the command: load the settings, produce the page, deliver it.

The first configuration file that exists decides the settings, whether it can be read or not.
Nothing is written before the page is complete.
-/

namespace Quire.Cli

/-- How settings are read and metadata is written. What cannot be read or written comes with a
message. -/
structure Codec where
  readSettings : String → Except String Settings
  writeMetadata : Metadata → Except String String

/-- What a run can do on the machine it runs on. -/
structure Machine (m : Type → Type) where
  present : String → m Bool
  read : String → m (Except DiskError String)
  write : String → String → m (Except DiskError Unit)
  print : String → m (Except DiskError Unit)
  log : Event → m Unit

/-- Where the settings may come from, in order of precedence. An explicit path shadows all other
places. -/
def candidates (explicit platform : Option String) : List (Origin × String) :=
  match explicit with
  | some path => [(.explicit, path)]
  | none =>
      (.workingDirectory, "folio/config.toml") ::
        platform.toList.map fun path => (.platform, path)

def Codec.load (codec : Codec) : Except DiskError String → Except Failure Settings
  | .error error => .error (.io error.message)
  | .ok content =>
      match codec.readSettings content with
      | .error message => .error (.config ("Failed to parse TOML configuration: " ++ message))
      | .ok settings =>
          match settings.fault? with
          | some fault => .error (.config ("Validation error: " ++ fault.message))
          | none => .ok settings

def Arguments.adjust (arguments : Arguments) (settings : Settings) : Settings :=
  { settings with
    output := { settings.output with pretty := settings.output.pretty || arguments.pretty } }

def writePage (codec : Codec) (settings : Settings) (format : Format) (page : Page) :
    Logged (Except Failure String) :=
  match format with
  | .html =>
      let produced := page.html settings (fun _ => .fragment) ∅
      ⟨produced.value.mapError .render, produced.events⟩
  | .toc => ⟨.ok page.outline, []⟩
  | .metadata => ⟨(codec.writeMetadata page.metadata).mapError .delivery, []⟩

def Arguments.produce (arguments : Arguments) (codec : Codec) (settings : Settings) :
    Logged (Except Failure String) :=
  match Page.find? arguments.page with
  | none => ⟨.error (.unknownPage arguments.page), []⟩
  | some page => writePage codec (arguments.adjust settings) arguments.format page

variable {m : Type → Type} [Monad m]

def loadSettings (machine : Machine m) (codec : Codec) :
    List (Origin × String) → m (Except Failure Settings)
  | [] => do
      machine.log .noConfiguration
      return .ok .default
  | (origin, path) :: later => do
      if ← machine.present path then
        machine.log (.loadingConfiguration origin path)
        return codec.load (← machine.read path)
      else if origin = .explicit then
        return .error (.config ("Missing configuration file: " ++ path))
      else
        machine.log (.configurationNotFound origin path)
        loadSettings machine codec later

/-- Everything a run does before it delivers: the text to deliver, or why there is none. -/
def prepare (machine : Machine m) (codec : Codec) (platform : Option String)
    (arguments : Arguments) : m (Except Failure String) := do
  machine.log (.processingPage arguments.page arguments.format.label)
  if arguments.config.isNone && platform.isNone then machine.log .noPlatformDirectory
  match ← loadSettings machine codec (candidates arguments.config platform) with
  | .error failure => return .error failure
  | .ok settings =>
      let produced := arguments.produce codec settings
      produced.events.forM machine.log
      return produced.value

def handOver (machine : Machine m) (output : Option String) (text : String) :
    m (Except Failure Unit) := do
  match output with
  | none => return (← machine.print text).mapError fun error => .io error.message
  | some path =>
      match ← machine.write path text with
      | .error error => return .error (.io error.message)
      | .ok _ =>
          machine.log (.pageExported path)
          return .ok ()

def run (machine : Machine m) (codec : Codec) (platform : Option String) (arguments : Arguments) :
    m (Except Failure Unit) := do
  match ← prepare machine codec platform arguments with
  | .error failure => return .error failure
  | .ok text => handOver machine arguments.output text

end Quire.Cli
