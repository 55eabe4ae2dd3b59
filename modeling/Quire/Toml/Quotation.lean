import Quire.Toml.Reader
import Quire.Toml.Scalar

set_option autoImplicit false

/-!
Quoted text, in its four forms: basic (with escapes) and literal (as it stands), each on one line
or on several.
-/

namespace Quire.Toml.Quotation

def isPlain (c : Char) : Bool :=
  c == '\t' || (0x20 ≤ c.toNat && c.toNat != 0x7f)

def isSpace (c : Char) : Bool :=
  c == ' ' || c == '\t'

def newline? : Reader (Option (List Char)) := do
  if ← Reader.skip? ['\n'] then return some ['\n']
  else if ← Reader.skip? ['\r', '\n'] then return some ['\r', '\n']
  else return none

def codePoint (width : Nat) : Reader Char := do
  let digits := (← get).take width
  guard (digits.length = width ∧ digits.all Scalar.isHexDigit)
  modify fun input => input.drop width
  let code := Scalar.natOf 16 digits
  guard code.isValidChar
  return Char.ofNat code

def escape : Reader Char := do
  match ← Reader.satisfy fun _ => true with
  | 'b' => return '\x08'
  | 't' => return '\t'
  | 'n' => return '\n'
  | 'f' => return '\x0c'
  | 'r' => return '\r'
  | 'e' => return '\x1b'
  | '"' => return '"'
  | '\\' => return '\\'
  | 'x' => codePoint 2
  | 'u' => codePoint 4
  | 'U' => codePoint 8
  | _ => failure

def basicChar : Reader (Option Char) := do
  if ← Reader.skip? ['"'] then return none
  else if ← Reader.skip? ['\\'] then return some (← escape)
  else return some (← Reader.satisfy isPlain)

def literalChar : Reader (Option Char) := do
  if ← Reader.skip? ['\x27'] then return none
  else return some (← Reader.satisfy isPlain)

/-- Quotes inside text on several lines, or `none` for the three that close it. One or two quotes
may stand right before these. -/
def quotes (quote : Char) : Reader (Option (List Char)) := do
  let run := ((← get).takeWhile fun c => c == quote).length
  guard (run ≤ 5)
  let kept := if run < 3 then run else run - 3
  if kept = 0 then
    modify fun input => input.drop 3
    return none
  else
    modify fun input => input.drop kept
    return some (List.replicate kept quote)

def isGap (c : Char) : Bool :=
  isSpace c || c == '\n' || c == '\r'

def wellFormed : List Char → Bool
  | '\r' :: '\n' :: rest => wellFormed rest
  | '\r' :: _ => false
  | _ :: rest => wellFormed rest
  | [] => true

/-- A backslash at the end of a line drops the line break and all blanks that follow. -/
def continuation : Reader (List Char) := do
  let gap ← Reader.takeWhile isGap
  match gap.dropWhile isSpace with
  | '\n' :: rest | '\r' :: '\n' :: rest =>
      guard (wellFormed rest)
      return []
  | _ => failure

def basicPiece : Reader (Option (List Char)) := do
  match ← newline? with
  | some newline => return some newline
  | none =>
      match ← Reader.peek? with
      | some '"' => quotes '"'
      | some '\\' =>
          Reader.char '\\'
          match ← Reader.peek? with
          | some c => if isGap c then return some (← continuation) else return some [← escape]
          | none => failure
      | _ => return some [← Reader.satisfy isPlain]

def literalPiece : Reader (Option (List Char)) := do
  match ← newline? with
  | some newline => return some newline
  | none =>
      if (← Reader.peek?) = some '\x27' then quotes '\x27'
      else return some [← Reader.satisfy isPlain]

def basicLine : Reader String := do
  return String.ofList (← Reader.collect basicChar)

def literalLine : Reader String := do
  return String.ofList (← Reader.collect literalChar)

/-- Text on several lines. A line break right after the opening quotes is dropped. -/
def lines (piece : Reader (Option (List Char))) : Reader String := do
  let _ ← newline?
  return String.ofList (← Reader.collect piece).flatten

def line : Reader String := do
  if ← Reader.skip? ['"'] then basicLine
  else
    Reader.char '\x27'
    literalLine

def text : Reader String := do
  if ← Reader.skip? "\"\"\"".toList then lines basicPiece
  else if ← Reader.skip? "\x27\x27\x27".toList then lines literalPiece
  else line

end Quire.Toml.Quotation
