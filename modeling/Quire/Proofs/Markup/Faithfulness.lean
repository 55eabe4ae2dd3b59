import Quire.Proofs.Expansion
import Quire.Proofs.Markup.Reading

set_option autoImplicit false

/-!
The markup of a rendered document says exactly what its normal form says.

Rendering lets only well-formed element names through, whoever made the element. The normal form of
a rendered document is therefore well formed, and reading its markup gives it back, whatever
characters stand in texts, attribute names and attribute values.
-/

namespace Quire

theorem Expands.tagsValid {library : Library} {budget next final : Nat} {registry : Registry}
    {nodes : List Node} {steps : List Step} {trees : List (Tree Nat)}
    (expansion : Expands library budget registry next nodes steps trees final) :
    Tree.TagsValid trees := by
  induction expansion with
  | nil => simp [Tree.TagsValid, Tree.elementsAll]
  | empty _ ih => exact ih
  | text _ ih | number _ ih => exact Tree.tagsValid_text_cons.mpr ih
  | fragment _ _ childrenIH restIH | provider _ _ childrenIH restIH
  | element _ _ _ childrenIH restIH =>
      exact Tree.tagsValid_append.mpr ⟨childrenIH, restIH⟩
  | host valid _ _ childrenIH restIH =>
      exact Tree.tagsValid_element_cons.mpr ⟨valid, childrenIH, restIH⟩

def Library.transparent : Library where
  configured _ := .fragment
  custom _ := .fragment

namespace Node

private theorem read_html_of_render {library : Library} {limit : Nat} {registry : Registry} {node : Node}
    {document : Document} (rendered : (node.render library limit registry).result = .ok document) :
    Html.read (document.html ⟨false, false⟩) = some document.normalForm := by
  obtain ⟨steps, final, expansion⟩ := expands_of_render rendered
  have formed := Tree.wellFormed_tidy_markupAll expansion.tagsValid
  exact Html.read_charsAll formed document.toList_html

/-- Markup is faithful: two rendered documents have the same markup exactly when they have the same
normal form, which can be read off the markup. -/
theorem render_html_faithful {library library' : Library} {limit limit' : Nat}
    {registry registry' : Registry} {node node' : Node} {document document' : Document}
    (rendered : (node.render library limit registry).result = .ok document)
    (rendered' : (node'.render library' limit' registry').result = .ok document') :
    (document.html ⟨false, false⟩ = document'.html ⟨false, false⟩ ↔
      document.normalForm = document'.normalForm) ∧
      Html.read (document.html ⟨false, false⟩) = some document.normalForm := by
  have read := read_html_of_render rendered
  have read' := read_html_of_render rendered'
  refine ⟨⟨?_, ?_⟩, read⟩
  · intro sameMarkup
    rw [sameMarkup, read'] at read
    exact (Option.some.inj read).symm
  · intro sameForm
    apply String.toList_inj.mp
    rw [Document.toList_html, Document.toList_html, sameForm]

def hostileTitle : Props :=
  Bag.ofList [("title", .text "\"><i>&quot;")]

def brokenText : Node :=
  .host "p" hostileTitle
    [.text "1 <", .text "", .text " 2", .host "br" ∅ [.text "lost"] none] none

def wholeText : Node :=
  .host "p" hostileTitle [.text "1 < 2", .host "br" ∅ [] none] none

def brokenDocument : Document :=
  [.element 0 "p" hostileTitle
    [.text "1 <", .text "", .text " 2", .element 1 "br" ∅ [.text "lost"]]]

def wholeDocument : Document :=
  [.element 0 "p" hostileTitle [.text "1 < 2", .element 1 "br" ∅ []]]

theorem render_html_brokenText :
    (brokenText.render .transparent 3 ∅).result = .ok brokenDocument ∧
      (wholeText.render .transparent 3 ∅).result = .ok wholeDocument ∧
      brokenDocument.html ⟨false, false⟩ = wholeDocument.html ⟨false, false⟩ ∧
      Html.read (brokenDocument.html ⟨false, false⟩) =
        some [.element "p" [⟨"title", some "\"><i>&quot;"⟩]
          [.text "1 < 2", .element "br" [] []]] := by
  have broken : (brokenText.render .transparent 3 ∅).result = .ok brokenDocument := rfl
  have whole : (wholeText.render .transparent 3 ∅).result = .ok wholeDocument := rfl
  obtain ⟨sameMarkup, read⟩ := render_html_faithful broken whole
  exact ⟨broken, whole, sameMarkup.mpr rfl, read⟩

end Node
end Quire
