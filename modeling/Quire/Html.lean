import Quire.Document
import Quire.Event
import Quire.Text.Class

set_option autoImplicit false

/-!
Documents as HTML text.

Text and attribute values are escaped, attributes without a printable value are left out, and
attribute names that would break the markup are skipped with a warning.
-/

namespace Quire

namespace Html

structure Options where
  pretty : Bool
  doctype : Bool
  deriving DecidableEq

def voidTags : List String := ["br", "hr", "img"]

def blockTags : List String :=
  ["h1", "h2", "h3", "h4", "h5", "h6", "p", "pre", "ul", "ol", "li", "blockquote", "hr", "table",
    "thead", "tbody", "tr", "div"]

def escapeText : Char → List Char
  | '&' => "&amp;".toList
  | '<' => "&lt;".toList
  | '>' => "&gt;".toList
  | c => [c]

def escapeValue : Char → List Char
  | '"' => "&quot;".toList
  | c => escapeText c

def escape (escapeChar : Char → List Char) (text : String) : String :=
  String.ofList (text.toList.flatMap escapeChar)

/-- Characters that cannot stand in an attribute name, whitespace and controls apart. -/
def delimiters : List Char := "\"\x27<>/=".toList

def isAttributeName (name : String) : Bool :=
  !name.isEmpty &&
    name.toList.all fun c => !(Text.isBlank c || Text.isControl c || delimiters.contains c)

def attributeName (name : String) : String :=
  if name = "className" then "class"
  else if name = "htmlFor" then "for"
  else name

/-- An attribute of a start tag. One without a value is written as its name alone. -/
structure Attribute where
  name : String
  value : Option String
  deriving DecidableEq

namespace Attribute

/-- The attribute for a property with a well-formed name, if its value can be printed. -/
def ofProperty? (name : String) : Value → Option Attribute
  | .bool true => some ⟨attributeName name, none⟩
  | .number value => some ⟨attributeName name, some value.text⟩
  | .text value => some ⟨attributeName name, some value⟩
  | .null | .bool false | .list _ | .map _ | .components _ => none

def html : Attribute → String
  | ⟨name, none⟩ => " " ++ name
  | ⟨name, some value⟩ => " " ++ name ++ "=\"" ++ escape escapeValue value ++ "\""

end Attribute

def attributes (props : Props) : List Attribute :=
  (props.named.filter fun property => isAttributeName property.1).filterMap fun property =>
    Attribute.ofProperty? property.1 property.2

def malformed (props : Props) : List String :=
  (props.named.map Prod.fst).filter fun name => !isAttributeName name

def startTag (tag : String) (props : Props) : String :=
  "<" ++ tag ++ String.join ((attributes props).map Attribute.html) ++ ">"

def endTag (tag : String) : String :=
  "</" ++ tag ++ ">"

def lineBreak (pretty : Bool) (tag : String) : String :=
  if pretty && blockTags.contains tag then "\n" else ""

end Html

namespace Tree

variable {ι : Type}

mutual

def html (pretty : Bool) : Tree ι → String
  | .text content => Html.escape Html.escapeText content
  | .element _ tag attributes children =>
      let content :=
        if Html.voidTags.contains tag then "" else htmlAll pretty children ++ Html.endTag tag
      Html.startTag tag attributes ++ content ++ Html.lineBreak pretty tag
termination_by structural tree => tree

def htmlAll (pretty : Bool) : List (Tree ι) → String
  | [] => ""
  | tree :: trees => tree.html pretty ++ htmlAll pretty trees
termination_by structural trees => trees

end

mutual

def malformedAttributes : Tree ι → List String
  | .text _ => []
  | .element _ tag attributes children =>
      Html.malformed attributes ++
        if Html.voidTags.contains tag then [] else malformedAttributesAll children
termination_by structural tree => tree

def malformedAttributesAll : List (Tree ι) → List String
  | [] => []
  | tree :: trees => tree.malformedAttributes ++ malformedAttributesAll trees
termination_by structural trees => trees

end

end Tree

namespace Html

def doctype (pretty : Bool) : String :=
  "<!DOCTYPE html>" ++ if pretty then "\n" else ""

end Html

namespace Document

def html (options : Html.Options) (document : Document) : String :=
  (if options.doctype then Html.doctype options.pretty else "") ++
    Tree.htmlAll options.pretty document

def htmlEvents (document : Document) : List Event :=
  (Tree.malformedAttributesAll document).map Event.malformedAttribute

end Document

def incompleteDelivery : String := "failed to write whole buffer"

/-- Bytes delivered to a sink of limited room: those that fit, and whether all did. -/
def deliver (room : Nat) (text : String) : List UInt8 × Bool :=
  let bytes := text.toUTF8.toList
  (bytes.take room, bytes.length ≤ room)

end Quire
