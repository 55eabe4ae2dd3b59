set_option autoImplicit false

/-!
Text as TOML writes it: in the plainest form of quotes that can hold it.
-/

namespace Quire.Toml

def needsEscape (c : Char) : Bool :=
  c != '\t' && c != '\n' && (c.toNat < 0x20 || c.toNat == 0x7f)

def hasTriple (quote : Char) : List Char → Bool
  | a :: b :: c :: rest =>
      (a == quote && b == quote && c == quote) || hasTriple quote (b :: c :: rest)
  | _ => false

inductive Style where
  | basic
  | literal
  | basicLines
  | literalLines
  deriving DecidableEq

def Style.of (text : List Char) : Style :=
  let plain := !text.any needsEscape
  let oneLine := !text.contains '\n'
  let noBackslash := !text.contains '\\'
  if plain && oneLine && noBackslash && !text.contains '"' then .basic
  else if plain && oneLine && !text.contains '\x27' then .literal
  else if plain && noBackslash && !hasTriple '"' text then .basicLines
  else if plain && !hasTriple '\x27' text then .literalLines
  else if oneLine then .basic
  else .basicLines

def upperHexDigit (n : Nat) : Char :=
  (Nat.digitChar n).toUpper

def escape? (c : Char) : Option (List Char) :=
  match c with
  | '\x08' => some ['\\', 'b']
  | '\t' => some ['\\', 't']
  | '\n' => some ['\\', 'n']
  | '\x0c' => some ['\\', 'f']
  | '\r' => some ['\\', 'r']
  | '\\' => some ['\\', '\\']
  | c =>
      if c.toNat < 0x20 || c.toNat == 0x7f then
        some ['\\', 'u', '0', '0', upperHexDigit (c.toNat / 16), upperHexDigit (c.toNat % 16)]
      else none

def basicBody (text : List Char) : List Char :=
  text.flatMap fun c => if c == '"' then ['\\', '"'] else (escape? c).getD [c]

/-- Basic text on several lines. Line breaks stay, and of quotes in a row every third is escaped;
`run` counts those since the last other character or escape. -/
def basicLinesBody (run : Nat) : List Char → List Char
  | [] => []
  | '\n' :: rest => '\n' :: basicLinesBody 0 rest
  | '"' :: rest =>
      if run = 2 then '\\' :: '"' :: basicLinesBody 0 rest
      else '"' :: basicLinesBody (run + 1) rest
  | c :: rest => (escape? c).getD [c] ++ basicLinesBody 0 rest

/-- A text in quotes. Forms on several lines start with a line break if the text has one. -/
def quote (text : String) : String :=
  let chars := text.toList
  let opening := if chars.contains '\n' then ['\n'] else []
  let quoted := match Style.of chars with
    | .basic => '"' :: basicBody chars ++ ['"']
    | .literal => '\x27' :: chars ++ ['\x27']
    | .basicLines => "\"\"\"".toList ++ opening ++ basicLinesBody 0 chars ++ "\"\"\"".toList
    | .literalLines => "\x27\x27\x27".toList ++ opening ++ chars ++ "\x27\x27\x27".toList
  String.ofList quoted

def entryLine (key value : String) : String :=
  key ++ " = " ++ value ++ "\n"

def headerLine (key : String) : String :=
  "\n[" ++ key ++ "]\n"

end Quire.Toml
