set_option autoImplicit false

/-!
The command line: which page to produce, in which format, and where to put it.

Options may be written long or short, with their value attached or as the next argument. An option
whose value is a separate argument is settled only when the next one begins, and that decides which
of two mistakes is reported.
-/

namespace Quire.Cli

inductive Format where
  | html
  | toc
  | metadata
  deriving DecidableEq

namespace Format

def label : Format → String
  | .html => "Html"
  | .toc => "Toc"
  | .metadata => "Metadata"

def ofText? : String → Option Format
  | "html" => some .html
  | "toc" => some .toc
  | "metadata" => some .metadata
  | _ => none

end Format

structure Arguments where
  page : String
  output : Option String
  config : Option String
  format : Format
  logLevel : String
  pretty : Bool
  deriving DecidableEq

inductive UsageError where
  | invalidValue
  | unknownArgument
  | argumentConflict
  | tooManyValues
  | displayHelp
  | displayVersion
  deriving DecidableEq

inductive Setting where
  | output
  | config
  | format
  | logLevel
  deriving DecidableEq

structure Given where
  page : Option String
  output : Option String
  config : Option String
  format : Option Format
  logLevel : Option String
  pretty : Bool

namespace Given

def once {α : Type} (old : Option α) (value : α) : Except UsageError (Option α) :=
  match old with
  | some _ => .error .argumentConflict
  | none => .ok (some value)

def readFormat (value : String) : Except UsageError Format :=
  match Format.ofText? value with
  | some format => .ok format
  | none => .error .invalidValue

def store (given : Given) (setting : Setting) (value : String) : Except UsageError Given := do
  match setting with
  | .output => return { given with output := ← once given.output value }
  | .config => return { given with config := ← once given.config value }
  | .logLevel => return { given with logLevel := ← once given.logLevel value }
  | .format =>
      if given.format.isSome then .error .argumentConflict
      else return { given with format := some (← readFormat value) }

def complete (given : Given) : Arguments where
  page := given.page.getD "/"
  output := given.output
  config := given.config
  format := given.format.getD .html
  logLevel := given.logLevel.getD "info"
  pretty := given.pretty

end Given

structure State where
  given : Given
  /-- The latest option whose value is an argument of its own, with that value once it was met. -/
  pending : Option (Setting × Option String)
  trailing : Bool

namespace State

def start : State := ⟨⟨none, none, none, none, none, false⟩, none, false⟩

def settle (state : State) : Except UsageError State :=
  match state.pending with
  | none => .ok state
  | some (_, none) => .error .invalidValue
  | some (setting, some value) => do
      return { state with given := ← state.given.store setting value, pending := none }

def option (state : State) (setting : Setting) (value : Option String) :
    Except UsageError State := do
  let state ← state.settle
  match value with
  | some value => return { state with given := ← state.given.store setting value }
  | none => return { state with pending := some (setting, none) }

def pretty (state : State) : Except UsageError State := do
  let state ← state.settle
  if state.given.pretty then .error .argumentConflict
  else return { state with given := { state.given with pretty := true } }

def stop (state : State) (reason : UsageError) : Except UsageError State := do
  let _ ← state.settle
  .error reason

def flag (value : Option String) (act : Except UsageError State) : Except UsageError State :=
  match value with
  | some _ => .error .tooManyValues
  | none => act

def long (state : State) (name : String) (value : Option String) : Except UsageError State :=
  match name with
  | "output" => state.option .output value
  | "config" => state.option .config value
  | "format" => state.option .format value
  | "log-level" => state.option .logLevel value
  | "pretty" => flag value state.pretty
  | "help" => flag value (state.stop .displayHelp)
  | "version" => flag value (state.stop .displayVersion)
  | _ => .error .unknownArgument

def attached : List Char → Option String
  | [] => none
  | '=' :: rest => some (String.ofList rest)
  | rest => some (String.ofList rest)

def short (state : State) (letter : Char) (rest : List Char) : Except UsageError State :=
  match letter with
  | 'o' => state.option .output (attached rest)
  | 'c' => state.option .config (attached rest)
  | 'f' => state.option .format (attached rest)
  | 'h' => state.stop .displayHelp
  | 'V' => state.stop .displayVersion
  | _ => .error .unknownArgument

def positional (state : State) (value : String) : Except UsageError State :=
  match state.given.page with
  | some _ => .error .unknownArgument
  | none => do
      let state ← state.settle
      return { state with given := { state.given with page := some value } }

/-- An argument that is no option: the value of the pending option, or the page. -/
def word (state : State) (value : String) : Except UsageError State :=
  match state.pending with
  | some (setting, none) => .ok { state with pending := some (setting, some value) }
  | _ => state.positional value

def attachedLong : List Char → Option String
  | [] => none
  | _ :: value => some (String.ofList value)

def argument (state : State) (text : String) : Except UsageError State :=
  if state.trailing then state.positional text
  else
    match text.toList with
    | ['-', '-'] => .ok { state with trailing := true }
    | '-' :: '-' :: rest =>
        let (name, value) := rest.span fun c => c != '='
        state.long (String.ofList name) (attachedLong value)
    | '-' :: letter :: rest => state.short letter rest
    | _ => state.word text

end State

def Arguments.parse (arguments : List String) : Except UsageError Arguments := do
  let state ← arguments.foldlM State.argument State.start
  let state ← state.settle
  return state.given.complete

end Quire.Cli
