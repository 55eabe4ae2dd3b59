import Quire.Html
import Quire.Proofs.Forest
import Quire.Tag

set_option autoImplicit false

/-!
The normal form of a document: what can be seen of it in its markup.

Ids are left out, and so is whatever stands below an element without content. Of an element's
properties only the attributes that are written remain. Empty texts are dropped and adjacent ones
joined. The markup of a document is the markup of its normal form.
-/

namespace Quire

namespace Html

inductive Markup where
  | text (content : String)
  | element (tag : String) (attributes : List Attribute) (children : List Markup)

namespace Markup

def isEmptyText : Markup → Bool
  | .text content => content.isEmpty
  | .element .. => false

def startsWithText : List Markup → Bool
  | .text _ :: _ => true
  | _ => false

def cons : Markup → List Markup → List Markup
  | .text content, .text more :: rest => .text (content ++ more) :: rest
  | markup, rest => markup :: rest

/-- Drops empty texts and then joins adjacent ones. -/
def tidy (markup : List Markup) : List Markup :=
  (markup.filter fun piece => !piece.isEmptyText).foldr cons []

mutual

def chars : Markup → List Char
  | .text content => content.toList.flatMap escapeText
  | .element tag attributes children =>
      '<' :: tag.toList ++ attributes.flatMap (fun written => written.html.toList) ++ '>' ::
        if voidTags.contains tag then [] else charsAll children ++ (endTag tag).toList
termination_by structural markup => markup

def charsAll : List Markup → List Char
  | [] => []
  | piece :: markup => piece.chars ++ charsAll markup
termination_by structural markup => markup

end

@[simp] theorem charsAll_cons (piece : Markup) (markup : List Markup) :
    charsAll (cons piece markup) = piece.chars ++ charsAll markup := by
  fun_cases cons piece markup with
  | case1 content more rest => simp [charsAll, chars]
  | case2 => rfl

private theorem tidy_empty_cons (markup : List Markup) : tidy (.text "" :: markup) = tidy markup := rfl

private theorem tidy_text_cons {content : String} (written : content ≠ "") (markup : List Markup) :
    tidy (.text content :: markup) = cons (.text content) (tidy markup) := by
  simp [tidy, isEmptyText, written]

private theorem tidy_element_cons (tag : String) (attributes : List Attribute)
    (children markup : List Markup) :
    tidy (.element tag attributes children :: markup) =
      .element tag attributes children :: tidy markup := rfl

private theorem charsAll_tidy (markup : List Markup) : charsAll (tidy markup) = charsAll markup := by
  induction markup with
  | nil => rfl
  | cons piece markup ih =>
      cases piece with
      | text content =>
          by_cases written : content = ""
          · rw [written, tidy_empty_cons, ih]
            rfl
          · rw [tidy_text_cons written, charsAll_cons, ih]
            rfl
      | element tag attributes children =>
          rw [tidy_element_cons, charsAll, charsAll, ih]

/-- Markup that can be read back. Texts are not empty and do not meet, names are well formed, and an
element without content holds nothing. -/
inductive WellFormed : List Markup → Prop where
  | nil : WellFormed []
  | text {content rest} :
      content ≠ "" → startsWithText rest = false → WellFormed rest →
      WellFormed (.text content :: rest)
  | void {tag attributes rest} :
      Tag.isValid tag = true → voidTags.contains tag = true →
      (∀ written ∈ attributes, isAttributeName written.name = true) → WellFormed rest →
      WellFormed (.element tag attributes [] :: rest)
  | element {tag attributes children rest} :
      Tag.isValid tag = true → voidTags.contains tag = false →
      (∀ written ∈ attributes, isAttributeName written.name = true) → WellFormed children →
      WellFormed rest → WellFormed (.element tag attributes children :: rest)

private theorem WellFormed.cons_text {content : String} {markup : List Markup} (written : content ≠ "")
    (formed : WellFormed markup) : WellFormed (cons (.text content) markup) := by
  cases formed with
  | nil => exact .text written rfl .nil
  | text more apart rest => exact .text (by simp [written]) apart rest
  | void valid isVoid names rest => exact .text written rfl (.void valid isVoid names rest)
  | element valid notVoid names children rest =>
      exact .text written rfl (.element valid notVoid names children rest)

end Markup

theorem attributeName_cases (name : String) :
    name = "className" ∧ attributeName name = "class" ∨
      name = "htmlFor" ∧ attributeName name = "for" ∨ attributeName name = name := by
  unfold attributeName
  split
  · exact .inl ⟨‹_›, rfl⟩
  · split
    · exact .inr (.inl ⟨‹_›, rfl⟩)
    · exact .inr (.inr rfl)

private theorem isAttributeName_attributeName {name : String} (valid : isAttributeName name = true) :
    isAttributeName (attributeName name) = true := by
  rcases attributeName_cases name with ⟨-, written⟩ | ⟨-, written⟩ | written
  · rw [written]
    decide
  · rw [written]
    decide
  · rw [written]
    exact valid

theorem Attribute.name_ofProperty? {name : String} {value : Value} {written : Attribute}
    (made : ofProperty? name value = some written) : written.name = attributeName name := by
  unfold ofProperty? at made
  split at made <;> cases made <;> rfl

theorem isAttributeName_of_mem_attributes {props : Props} {written : Attribute}
    (member : written ∈ attributes props) : isAttributeName written.name = true := by
  obtain ⟨property, kept, made⟩ := List.mem_filterMap.mp member
  rw [Attribute.name_ofProperty? made]
  exact isAttributeName_attributeName (List.mem_filter.mp kept).2

end Html

namespace Tree

variable {ι : Type}

mutual

def markup : Tree ι → Html.Markup
  | .text content => .text content
  | .element _ tag attributes children =>
      .element tag (Html.attributes attributes)
        (if Html.voidTags.contains tag then [] else Html.Markup.tidy (markupAll children))
termination_by structural tree => tree

def markupAll : List (Tree ι) → List Html.Markup
  | [] => []
  | tree :: trees => tree.markup :: markupAll trees
termination_by structural trees => trees

end

/-- The text written for trees is the characters of their markup. -/
theorem toList_htmlAll (trees : List (Tree ι)) :
    (htmlAll false trees).toList = Html.Markup.charsAll (markupAll trees) := by
  induction trees using forestInduction with
  | nil => rfl
  | text content trees ih =>
      simp [htmlAll, html, markupAll, markup, Html.Markup.charsAll, Html.Markup.chars, Html.escape,
        ih]
  | element id tag attributes children trees childrenIH treesIH =>
      simp only [htmlAll, html, markupAll, markup, Html.Markup.charsAll, Html.Markup.chars]
      by_cases void : tag ∈ Html.voidTags
      · simp [Html.startTag, Html.lineBreak, List.flatMap_map, void, treesIH]
      · simp [Html.startTag, Html.lineBreak, List.flatMap_map, void, treesIH, childrenIH,
          Html.Markup.charsAll_tidy]

def TagsValid (trees : List (Tree ι)) : Prop :=
  ∀ element ∈ elementsAll trees, element.tag?.all Tag.isValid = true

@[simp] theorem tagsValid_append {trees others : List (Tree ι)} :
    TagsValid (trees ++ others) ↔ TagsValid trees ∧ TagsValid others := by
  simp [TagsValid, or_imp, forall_and]

@[simp] theorem tagsValid_text_cons {content : String} {trees : List (Tree ι)} :
    TagsValid (.text content :: trees) ↔ TagsValid trees := Iff.rfl

@[simp] theorem tagsValid_element_cons {id : ι} {tag : String} {attributes : Props}
    {children trees : List (Tree ι)} :
    TagsValid (.element id tag attributes children :: trees) ↔
      Tag.isValid tag = true ∧ TagsValid children ∧ TagsValid trees := by
  simp [TagsValid, elementsAll, elements, tag?, or_imp, forall_and]

theorem wellFormed_tidy_markupAll {trees : List (Tree ι)} (valid : TagsValid trees) :
    Html.Markup.WellFormed (Html.Markup.tidy (markupAll trees)) := by
  induction trees using forestInduction with
  | nil => exact .nil
  | text content trees ih =>
      have formed := ih valid
      by_cases written : content = ""
      · subst written
        exact formed
      · rw [markupAll, markup, Html.Markup.tidy_text_cons written]
        exact formed.cons_text written
  | element id tag attributes children trees childrenIH treesIH =>
      obtain ⟨own, inner, rest⟩ := tagsValid_element_cons.mp valid
      rw [markupAll, markup, Html.Markup.tidy_element_cons]
      cases void : Html.voidTags.contains tag with
      | true =>
          exact .void own void (fun _ => Html.isAttributeName_of_mem_attributes) (treesIH rest)
      | false =>
          exact .element own void (fun _ => Html.isAttributeName_of_mem_attributes)
            (childrenIH inner) (treesIH rest)

end Tree

def Document.normalForm (document : Document) : List Html.Markup :=
  Html.Markup.tidy (Tree.markupAll document)

theorem Document.toList_html (document : Document) :
    (document.html ⟨false, false⟩).toList = Html.Markup.charsAll document.normalForm := by
  rw [normalForm, Html.Markup.charsAll_tidy, ← Tree.toList_htmlAll]
  simp [html]

end Quire
