import Quire.Node
import Quire.Page.Metadata
import Quire.Page.Outline

set_option autoImplicit false

/-!
Compiled pages: what a site knows about a page, and the tree its body is described by.
-/

namespace Quire

structure Page where
  metadata : Metadata
  contents : List Heading
  body : Props → Node

namespace Page

def outline (page : Page) : String :=
  Heading.outlineAll 0 page.contents

def usesComponents (_ : Page) : Bool := true

def answersTo (page : Page) (key : String) : Bool :=
  page.metadata.slug == key || page.metadata.permalink == key || page.metadata.id == key

def layoutName : String := "wrapper"

def layoutMark : String := "MDXLayout"

/-- Puts the layout component around the nodes of a page. The layout receives the table of contents
and the caller's properties. A registry among these is put over the one in view for the whole page,
and is handed to the layout as well. The mark is overwritten by the layout's name. -/
def layout (contents : List Heading) (nodes : List Node) (props : Props) : Node :=
  let own := (props.get? componentsKey).bind Value.components?
  let given := props.without [componentsKey]
  let toc : Props := Bag.ofList [("toc", .list (Heading.toValues contents))]
  let marked := (Bag.merge [some toc, some given]).insert typeKey (.text layoutMark)
  let element := match own with
    | some registry =>
        Element.typed (.named ⟨layoutName⟩)
          (marked.insert componentsKey (.components registry))
          [.provider (.map registry) nodes] none
    | none => Element.typed (.named ⟨layoutName⟩) marked nodes none
  .ofElement element

end Page
end Quire
