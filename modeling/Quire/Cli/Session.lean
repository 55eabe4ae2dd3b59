import Quire.Cli.Run
import Quire.Settings.Toml

set_option autoImplicit false

/-!
Sessions: a disk and a standard output that a run takes place on.
-/

namespace Quire.Cli

/-- Settings and metadata as TOML documents. A document that cannot be read is refused without a
reason. -/
def Codec.toml : Codec where
  readSettings text :=
    match Settings.ofToml? text with
    | some settings => .ok settings
    | none => .error ""
  writeMetadata metadata := .ok metadata.toToml

structure Session where
  disk : Disk
  printed : String
  /-- Why standard output takes nothing, if it does not. -/
  closed : Option DiskError
  events : List Event

namespace Session

def start (disk : Disk) : Session :=
  ⟨disk, "", none, []⟩

def write (session : Session) (path content : String) : Except DiskError Unit × Session :=
  match session.disk.write path content with
  | .error error => (.error error, session)
  | .ok disk => (.ok (), { session with disk := disk })

def print (session : Session) (text : String) : Except DiskError Unit × Session :=
  match session.closed with
  | some error => (.error error, session)
  | none => (.ok (), { session with printed := session.printed ++ text })

def log (session : Session) (event : Event) : Session :=
  { session with events := session.events ++ [event] }

@[simp]
theorem disk_log (session : Session) (event : Event) : (session.log event).disk = session.disk :=
  rfl

def machine : Machine (StateM Session) where
  present path := return (← get).disk.present path
  read path := return (← get).disk.read path
  write path content := modifyGet fun session => session.write path content
  print text := modifyGet fun session => session.print text
  log event := modify fun session => session.log event

def run (session : Session) (codec : Codec) (platform : Option String) (arguments : Arguments) :
    Except Failure Unit × Session :=
  (Cli.run machine codec platform arguments).run session

end Session
end Quire.Cli
