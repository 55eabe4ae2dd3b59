import Quire.Cli.Session
import Quire.Cli.Usage

set_option autoImplicit false

/-!
The command itself: a run on the machine that it is started on. What it says besides the page goes to
standard error.
-/

namespace Quire.Cli

def diskError : IO.Error → DiskError
  | .noFileOrDirectory _ _ _ => .noSuchFile
  | .inappropriateType _ _ details =>
      if details.toLower = "is a directory" then .isADirectory else .notADirectory
  | error => .other (toString error)

def platformPath : IO (Option String) := do
  match ← IO.getEnv "XDG_CONFIG_HOME", ← IO.getEnv "HOME" with
  | some directory, _ => return some (directory ++ "/folio/config.toml")
  | none, some home => return some (home ++ "/.config/folio/config.toml")
  | none, none => return none

def logThreshold (arguments : Arguments) : IO Nat := do
  match Level.threshold? arguments.logLevel with
  | some threshold => return threshold
  | none =>
      IO.eprintln ("Invalid log level: " ++ arguments.logLevel ++ ". Using 'warn' instead.")
      return Level.warn.rank

def readPath (path : String) : IO (Except DiskError String) := do
  match ← (IO.FS.readBinFile path).toBaseIO with
  | .ok contents => return Disk.decode contents.toList
  | .error error => return .error (diskError error)

/-- The machine that the command is started on. Only records that are urgent enough are logged. -/
def terminal (threshold : Nat) : Machine IO where
  present path := do
    match ← readPath path with
    | .error .noSuchFile | .error .notADirectory => return false
    | _ => return true
  read := readPath
  write path content := do
    return (← (IO.FS.writeFile path content).toBaseIO).mapError diskError
  print text := do
    let printed ← EIO.toBaseIO do
      IO.print text
      (← IO.getStdout).flush
    return printed.mapError diskError
  log event := do
    if event.record.level.rank ≤ threshold then IO.eprintln event.record.line

def runArguments (arguments : Arguments) : IO UInt32 := do
  let threshold ← logThreshold arguments
  match ← run (terminal threshold) .toml (← platformPath) arguments with
  | .ok _ => return 0
  | .error failure =>
      IO.eprint (failureText failure)
      return 1

def execute (arguments : List String) : IO UInt32 := do
  match Arguments.parse arguments with
  | .ok arguments => runArguments arguments
  | .error error =>
      if error.isAnswer then
        IO.print error.message
        return 0
      else
        IO.eprint error.message
        return 2

end Quire.Cli

def main (arguments : List String) : IO UInt32 :=
  Quire.Cli.execute arguments
