import Quire.Html
import Quire.Proofs.Forest

set_option autoImplicit false

/-!
Pretty output is the plain output of a document with more text.

The text that is added is a line break after every block element, inside an element without content as
anywhere else; what stands in such an element is never written.
-/

namespace Quire

namespace Tree

variable {ι : Type}

mutual

/-- A tree, and after it a line break if it is a block element. Inside it, too, block elements are
followed by line breaks. -/
def broken : Tree ι → List (Tree ι)
  | .text content => [.text content]
  | .element id tag attributes children =>
      .element id tag attributes (brokenAll children) ::
        if Html.blockTags.contains tag then [.text "\n"] else []
termination_by structural tree => tree

def brokenAll : List (Tree ι) → List (Tree ι)
  | [] => []
  | tree :: trees => tree.broken ++ brokenAll trees
termination_by structural trees => trees

end

private theorem htmlAll_append (pretty : Bool) (trees others : List (Tree ι)) :
    htmlAll pretty (trees ++ others) = htmlAll pretty trees ++ htmlAll pretty others := by
  induction trees with
  | nil => simp [htmlAll]
  | cons tree trees ih => simp [htmlAll, ih, String.append_assoc]

private theorem htmlAll_lineBreak (tag : String) :
    htmlAll false (if Html.blockTags.contains tag then [(.text "\n" : Tree ι)] else []) =
      Html.lineBreak true tag := by
  unfold Html.lineBreak
  cases Html.blockTags.contains tag with
  | true => rfl
  | false => rfl

private theorem html_element_pretty (id : ι) (tag : String) (attributes : Props)
    {children : List (Tree ι)} (inner : htmlAll true children = htmlAll false (brokenAll children)) :
    (Tree.element id tag attributes children).html true =
      htmlAll false (Tree.element id tag attributes children).broken := by
  have plain : Html.lineBreak false tag = "" := rfl
  rw [broken, htmlAll, htmlAll_lineBreak, html, html, inner, plain, String.append_empty]

private theorem htmlAll_pretty (trees : List (Tree ι)) :
    htmlAll true trees = htmlAll false (brokenAll trees) := by
  induction trees using forestInduction with
  | nil => rfl
  | text content trees ih => simp [brokenAll, broken, htmlAll, html, ih]
  | element id tag attributes children trees childrenIH treesIH =>
      rw [brokenAll, htmlAll_append, htmlAll, html_element_pretty id tag attributes childrenIH,
        treesIH]

end Tree

namespace Document

def broken (document : Document) : Document :=
  Tree.brokenAll document

/-- Pretty output of a document is plain output of the document with line breaks put in, and a document
type line only comes before it. -/
theorem html_pretty (document : Document) :
    document.html ⟨true, false⟩ = document.broken.html ⟨false, false⟩ ∧
      document.html ⟨true, true⟩ = "<!DOCTYPE html>\n" ++ document.html ⟨true, false⟩ := by
  have written : Tree.htmlAll true document = Tree.htmlAll false document.broken :=
    Tree.htmlAll_pretty document
  have line : Html.doctype true = "<!DOCTYPE html>\n" := rfl
  constructor
  · simp [html, written]
  · simp [html, line]

-- A rule is both a block and without content: it gets its line break, its child is not written.
example : Document.html ⟨true, false⟩
    [.element 0 "ul" ∅ [.element 1 "li" ∅ [.element 2 "em" ∅ [.text "a"]]],
      .element 3 "hr" ∅ [.element 4 "p" ∅ []]] =
    "<ul><li><em>a</em></li>\n</ul>\n<hr>\n" := by decide

end Document
end Quire
