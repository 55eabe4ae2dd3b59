import Quire.Cli.Arguments
import Quire.Failure

set_option autoImplicit false

/-!
What the command tells its user when it does not deliver a page.
-/

namespace Quire.Cli

def usage : String :=
  "Usage: quire [OPTIONS] [PAGE]\n\n" ++
  "  [PAGE]                 slug, permalink or id of the page (default: /)\n" ++
  "  -o, --output <FILE>    where to put the page; standard output when omitted\n" ++
  "  -c, --config <FILE>    configuration file (TOML)\n" ++
  "  -f, --format <FORMAT>  html, toc or metadata (default: html)\n" ++
  "      --log-level <LEVEL>\n" ++
  "                         off, error, warn, info, debug or trace (default: info)\n" ++
  "      --pretty           break lines after block elements\n" ++
  "  -h, --help             show this text\n" ++
  "  -V, --version          show the version\n"

def version : String := "quire 0.1.0\n"

def UsageError.message : UsageError → String
  | .invalidValue => "error: an option has a missing or impossible value\n\n" ++ usage
  | .unknownArgument => "error: unexpected argument\n\n" ++ usage
  | .argumentConflict => "error: an option is given twice\n\n" ++ usage
  | .tooManyValues => "error: an option that takes no value has one\n\n" ++ usage
  | .displayHelp => usage
  | .displayVersion => version

def UsageError.isAnswer : UsageError → Bool
  | .displayHelp | .displayVersion => true
  | .invalidValue | .unknownArgument | .argumentConflict | .tooManyValues => false

def failureText (failure : Failure) : String :=
  let report := failure.report
  let help := match report.help with
    | some help => "  help: " ++ help ++ "\n"
    | none => ""
  report.code ++ "\n\n  " ++ failure.message ++ "\n" ++ help

end Quire.Cli
