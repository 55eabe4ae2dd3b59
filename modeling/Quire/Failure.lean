import Quire.RenderError
import Quire.Page.Bundled
import Quire.Render

set_option autoImplicit false

/-!
Why a run fails, and how a failure is reported.
-/

namespace Quire

inductive Failure where
  | io (cause : String)
  | render (error : RenderError)
  | config (message : String)
  | unknownPage (key : String)
  /-- A page could not be put into its format, or a finished document not be handed over. -/
  | delivery (message : String)
  deriving DecidableEq

def ioMessage (cause : String) : String :=
  "I/O error: " ++ cause

namespace Failure

def message : Failure → String
  | .io cause => ioMessage cause
  | .render error => error.message
  | .config message => "Configuration error: " ++ message
  | .unknownPage key => "Unknown page `" ++ key ++ "`"
  | .delivery message => "Export error: " ++ message

def code : Failure → String
  | .io _ => "folio::io"
  | .render (.unresolved _) => "folio::render::unresolved"
  | .render (.invalidReference _) => "folio::render::invalid_reference"
  | .render (.invalidTag _) => "folio::render::invalid_tag"
  | .render (.depthExceeded _) => "folio::render::depth"
  | .render (.component _ _) => "folio::render::component"
  | .config _ => "folio::config"
  | .unknownPage _ => "folio::page"
  | .delivery _ => "folio::export"

def help? : Failure → Option String
  | .render (.unresolved name) =>
      some ("register `" ++ name.text ++ "` under [components] in the configuration file")
  | .render (.depthExceeded _) =>
      some ("a component probably renders itself; raise render.max_depth (at most " ++
        toString maximalLimit ++ ") if the nesting is intended")
  | .render (.invalidTag _) =>
      some "element names start with a letter and contain only letters, digits and `-`"
  | .unknownPage _ =>
      some ("available pages: " ++ ", ".intercalate (Page.bundled.map fun page =>
        page.metadata.slug))
  | _ => none

def cause? : Failure → Option String
  | .io cause => some cause
  | _ => none

end Failure

structure Report where
  code : String
  help : Option String
  cause : Option String
  deriving DecidableEq

def Failure.report (failure : Failure) : Report :=
  ⟨failure.code, failure.help?, failure.cause?⟩

end Quire
