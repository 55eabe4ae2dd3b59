import Quire.Toml.Draft
import Quire.Toml.Quotation

set_option autoImplicit false

/-!
TOML documents: lines of headers and entries, and the table they add up to.
-/

namespace Quire.Toml

namespace Document

open Quotation

def comment : Reader Unit := do
  Reader.char '#'
  let _ ← Reader.takeWhile isPlain

def spaces : Reader Unit := do
  let _ ← Reader.takeWhile isSpace

def gap? : Reader (Option Unit) := do
  match ← newline? with
  | some _ => return some ()
  | none =>
      match ← Reader.peek? with
      | some '#' => comment; return some ()
      | some ' ' | some '\t' => spaces; return some ()
      | _ => return none

def gaps : Reader Unit := do
  let _ ← Reader.collect gap?

def isBareKey (c : Char) : Bool :=
  c.isAlphanum || c == '_' || c == '-'

def keyPart : Reader String := do
  match ← Reader.peek? with
  | some '"' | some '\x27' => line
  | _ =>
      let bare ← Reader.takeWhile isBareKey
      guard (bare ≠ [])
      return String.ofList bare

def furtherPart : Reader (Option String) := do
  spaces
  if ← Reader.skip? ['.'] then
    spaces
    return some (← keyPart)
  else return none

structure Path where
  tables : List String
  key : String

/-- How deep brackets may nest, and how many parts a key may have. -/
def nestingLimit : Nat := 80

def path : Reader Path := do
  let first ← keyPart
  let further ← Reader.collect furtherPart
  guard (further.length < nestingLimit)
  match further.reverse with
  | [] => return ⟨[], first⟩
  | key :: tables => return ⟨first :: tables.reverse, key⟩

def delimiters : List Char := "=,[]\x7b\x7d \t#\r\n".toList

def bareText : Reader (List Char) :=
  Reader.takeWhile fun c => !delimiters.contains c

def furtherText : Reader (Option (List Char)) := do
  let blanks ← Reader.takeWhile isSpace
  match ← Reader.peek? with
  | none | some '"' | some '\x27' => return none
  | some c =>
      if blanks.isEmpty || delimiters.contains c then return none
      else return some (blanks ++ (← bareText))

/-- An unquoted value. It goes on after blanks, as a date does with a time. -/
def scalar : Reader Value := do
  let first ← bareText
  let further ← Reader.collect furtherText
  Scalar.read? (first ++ further.flatten)

/-- A member of a bracketed list, with the comma after it. The closing bracket ends the list, and a
comma may stand before it. -/
def member {α : Type} (close : Char) (item : Reader α) : Reader (Option α) := do
  gaps
  if ← Reader.skip? [close] then return none
  else
    let value ← item
    gaps
    if ← Reader.skip? [','] then return some value
    else
      guard ((← Reader.peek?) = some close)
      return some value

structure Entry where
  path : Path
  value : Value

/-- A key, an equals sign and a value. What may stand on either side of the sign depends on where
the entry is: line breaks and comments only between braces. -/
def entry (blank : Reader Unit) (value : Reader Value) : Reader Entry := do
  let path ← path
  blank
  Reader.char '='
  blank
  return ⟨path, ← value⟩

def inlineTable (entries : List Entry) : Option Value :=
  let drafted := entries.foldlM (fun drafts entry =>
    Draft.assign entry.value entry.path.key entry.path.tables drafts) []
  drafted.map fun drafts => .table (Draft.finishEntries drafts)

def value (depth : Nat) : Reader Value := do
  match ← Reader.peek?, depth with
  | some '"', _ | some '\x27', _ => return .text (← text)
  | some '[', depth + 1 =>
      Reader.char '['
      return .array (← Reader.collect (member ']' (value depth)))
  | some '\x7b', depth + 1 =>
      Reader.char '\x7b'
      inlineTable (← Reader.collect (member '\x7d' (entry gaps (value depth))))
  | _, _ => scalar

inductive Line where
  | blank
  | table (path : Path)
  | nextTable (path : Path)
  | entry (entry : Entry)

def lineBody : Reader Line := do
  match ← Reader.peek? with
  | none | some '#' | some '\n' | some '\r' => return .blank
  | some '[' =>
      let shared ← Reader.skip? ['[', '[']
      if !shared then Reader.char '['
      spaces
      let path ← path
      spaces
      Reader.char ']'
      if shared then
        Reader.char ']'
        return .nextTable path
      else return .table path
  | _ => return .entry (← entry spaces (value nestingLimit))

def nextLine : Reader (Option Line) := do
  spaces
  if (← get).isEmpty then return none
  else
    let body ← lineBody
    spaces
    if (← Reader.peek?) = some '#' then comment
    if (← get).isEmpty then return some body
    else
      match ← newline? with
      | some _ => return some body
      | none => failure

structure Assembly where
  root : Draft.Entries
  current : List String

def Assembly.add (assembly : Assembly) : Line → Option Assembly
  | .blank => some assembly
  | .table path =>
      (Draft.openTable path.tables path.key assembly.root).map fun root =>
        ⟨root, path.tables ++ [path.key]⟩
  | .nextTable path =>
      (Draft.openNext path.tables path.key assembly.root).map fun root =>
        ⟨root, path.tables ++ [path.key]⟩
  | .entry ⟨path, value⟩ =>
      (Draft.inside (Draft.assign value path.key path.tables) assembly.current assembly.root).map
        fun root => ⟨root, assembly.current⟩

def byteOrderMark : Char := '\ufeff'

def dropMark : List Char → List Char
  | [] => []
  | c :: rest => if c = byteOrderMark then rest else c :: rest

end Document

/-- Reads a document. The entries of its tables come in the order in which they were begun. -/
def read? (text : String) : Option (List (String × Value)) := do
  let lines ← (Reader.collect Document.nextLine).readAll (Document.dropMark text.toList)
  let assembly ← lines.foldlM Document.Assembly.add ⟨[], []⟩
  return Draft.finishEntries assembly.root

end Quire.Toml
