import Quire.Page.Data
import Quire.Toml.Printer

set_option autoImplicit false

/-!
What a site knows about a page, how it is read, and how it is written as TOML.
-/

namespace Quire

structure FrontMatter where
  id : String
  title : String
  slug : String
  deriving DecidableEq

structure Link where
  title : String
  permalink : String
  deriving DecidableEq

structure Metadata where
  unversionedId : String
  id : String
  isHomePage : Bool
  title : String
  description : String
  source : String
  sourceDirectory : String
  slug : String
  permalink : String
  editUrl : String
  version : String
  frontMatter : FrontMatter
  sidebar : Option String
  previous : Option Link
  next : Option Link
  deriving DecidableEq

open Data

def FrontMatter.ofData (data : Data) : Except Problem FrontMatter := do
  let fields ← data.readFields ["id", "title", "slug"]
    [("id", check readText), ("title", check readText), ("slug", check readText)]
  return {
    id := ← required readText "id" fields
    title := ← required readText "title" fields
    slug := ← required readText "slug" fields }

def FrontMatter.toData (matter : FrontMatter) : Data :=
  .record [("id", .text matter.id), ("slug", .text matter.slug), ("title", .text matter.title)]

def Link.ofData (data : Data) : Except Problem Link := do
  let fields ← data.readFields ["title", "permalink"]
    [("title", check readText), ("permalink", check readText)]
  return {
    title := ← required readText "title" fields
    permalink := ← required readText "permalink" fields }

def Link.toData (link : Link) : Data :=
  .record [("permalink", .text link.permalink), ("title", .text link.title)]

namespace Metadata

def fieldNames : List String :=
  ["unversionedId", "id", "isDocsHomePage", "title", "description", "source", "sourceDirName",
    "slug", "permalink", "editUrl", "version", "frontMatter", "sidebar", "previous", "next"]

def fieldChecks : List (String × (Data → Except Problem Unit)) :=
  [("isDocsHomePage", check readBool),
    ("frontMatter", check FrontMatter.ofData),
    ("sidebar", check (readOptional readText)),
    ("previous", check (readOptional Link.ofData)),
    ("next", check (readOptional Link.ofData))] ++
  fieldNames.map fun name => (name, check readText)

def ofData (data : Data) : Except Problem Metadata := do
  let fields ← data.readFields fieldNames fieldChecks
  return {
    unversionedId := ← required readText "unversionedId" fields
    id := ← required readText "id" fields
    isHomePage := ← required readBool "isDocsHomePage" fields
    title := ← required readText "title" fields
    description := ← required readText "description" fields
    source := ← required readText "source" fields
    sourceDirectory := ← required readText "sourceDirName" fields
    slug := ← required readText "slug" fields
    permalink := ← required readText "permalink" fields
    editUrl := ← required readText "editUrl" fields
    version := ← required readText "version" fields
    frontMatter := ← required FrontMatter.ofData "frontMatter" fields
    sidebar := ← optional readText "sidebar" fields
    previous := ← optional Link.ofData "previous" fields
    next := ← optional Link.ofData "next" fields }

/-- Metadata as data. A missing sidebar is null, and a missing link is left out. -/
def toData (metadata : Metadata) : Data :=
  .record ([("description", .text metadata.description),
    ("editUrl", .text metadata.editUrl),
    ("frontMatter", metadata.frontMatter.toData),
    ("id", .text metadata.id),
    ("isDocsHomePage", .bool metadata.isHomePage)] ++
    (metadata.next.toList.map fun link => ("next", link.toData)) ++
    [("permalink", .text metadata.permalink)] ++
    (metadata.previous.toList.map fun link => ("previous", link.toData)) ++
    [("sidebar", (metadata.sidebar.map Data.text).getD .null),
      ("slug", .text metadata.slug),
      ("source", .text metadata.source),
      ("sourceDirName", .text metadata.sourceDirectory),
      ("title", .text metadata.title),
      ("unversionedId", .text metadata.unversionedId),
      ("version", .text metadata.version)])

def scalars (metadata : Metadata) : List (String × String) :=
  [("unversionedId", Toml.quote metadata.unversionedId),
    ("id", Toml.quote metadata.id),
    ("isDocsHomePage", if metadata.isHomePage then "true" else "false"),
    ("title", Toml.quote metadata.title),
    ("description", Toml.quote metadata.description),
    ("source", Toml.quote metadata.source),
    ("sourceDirName", Toml.quote metadata.sourceDirectory),
    ("slug", Toml.quote metadata.slug),
    ("permalink", Toml.quote metadata.permalink),
    ("editUrl", Toml.quote metadata.editUrl),
    ("version", Toml.quote metadata.version)] ++
  metadata.sidebar.toList.map fun sidebar => ("sidebar", Toml.quote sidebar)

def tables (metadata : Metadata) : List (String × List (String × String)) :=
  let link (link : Link) :=
    [("title", Toml.quote link.title), ("permalink", Toml.quote link.permalink)]
  ("frontMatter", [("id", Toml.quote metadata.frontMatter.id),
    ("title", Toml.quote metadata.frontMatter.title),
    ("slug", Toml.quote metadata.frontMatter.slug)]) ::
  (metadata.previous.toList.map fun previous => ("previous", link previous)) ++
  metadata.next.toList.map fun next => ("next", link next)

def writeEntries (entries : List (String × String)) : String :=
  String.join (entries.map fun entry => Toml.entryLine entry.1 entry.2)

def toToml (metadata : Metadata) : String :=
  writeEntries metadata.scalars ++
    String.join (metadata.tables.map fun table =>
      Toml.headerLine table.1 ++ writeEntries table.2)

end Metadata
end Quire
