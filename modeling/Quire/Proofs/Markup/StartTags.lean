import Quire.Proofs.Markup.Reading

set_option autoImplicit false

/-!
The start tags that can be found in written markup.

A start tag is a `<` with a name right after it. Texts, attribute names and attribute values are
written without a `<` of their own, so that looking for start tags finds those of the elements that
were written and no others, with or without line breaks and a document type line.
-/

namespace Quire

namespace Html

structure StartTag where
  tag : String
  attributes : List Attribute
  deriving DecidableEq

def readStartTag? (input : List Char) : Option StartTag :=
  let tag := String.ofList (input.takeWhile Tag.isInner)
  if Tag.isValid tag then
    (readAttributes input.length (input.dropWhile Tag.isInner)).map fun read => ⟨tag, read.1⟩
  else none

def findStartTags : List Char → List StartTag
  | [] => []
  | c :: rest =>
      if c = '<' then (readStartTag? rest).toList ++ findStartTags rest else findStartTags rest

def startTags (text : String) : List StartTag :=
  findStartTags text.toList

private theorem findStartTags_append_of_plain {chars : List Char} (plain : ∀ c ∈ chars, c ≠ '<')
    (rest : List Char) : findStartTags (chars ++ rest) = findStartTags rest := by
  induction chars with
  | nil => rfl
  | cons c chars ih =>
      obtain ⟨here, others⟩ := List.forall_mem_cons.mp plain
      rw [List.cons_append, findStartTags, if_neg here, ih others]

private theorem plain_of_isInner {c : Char} (inner : Tag.isInner c = true) : c ≠ '<' := by
  rintro rfl
  cases inner

private theorem plain_tag {tag : String} (valid : Tag.isValid tag = true) : ∀ c ∈ tag.toList, c ≠ '<' := by
  obtain ⟨first, others, characters, letter, inner⟩ := exists_letter_of_isValid valid
  rw [characters]
  refine List.forall_mem_cons.mpr ⟨?_, fun c member => plain_of_isInner (inner c member)⟩
  rintro rfl
  cases letter

private theorem plain_name {name : String} (valid : isAttributeName name = true) :
    ∀ c ∈ name.toList, c ≠ '<' := by
  simp only [isAttributeName, Bool.and_eq_true, List.all_eq_true] at valid
  rintro c member rfl
  exact absurd (valid.2 '<' member) (by decide)

private theorem plain_text (text : String) : ∀ c ∈ text.toList.flatMap escapeText, c ≠ '<' := by
  intro c member
  obtain ⟨source, -, escaped⟩ := List.mem_flatMap.mp member
  exact not_open_of_mem_escapeText escaped

private theorem plain_value (value : String) : ∀ c ∈ value.toList.flatMap escapeValue, c ≠ '<' := by
  intro c member
  obtain ⟨source, -, escaped⟩ := List.mem_flatMap.mp member
  rcases escapeValue_cases source with rfl | ⟨-, same⟩
  · have notOpen : ∀ c ∈ escapeValue '"', c ≠ '<' := by simp [escapeValue]
    exact notOpen c escaped
  · rw [same] at escaped
    exact not_open_of_mem_escapeText escaped

private theorem plain_attribute {written : Attribute} (valid : isAttributeName written.name = true) :
    ∀ c ∈ written.html.toList, c ≠ '<' := by
  obtain ⟨name, value⟩ := written
  have inName := plain_name valid
  cases value with
  | none =>
      rw [Attribute.toList_html_none]
      exact List.forall_mem_cons.mpr ⟨by decide, inName⟩
  | some value =>
      rw [Attribute.toList_html_some]
      simp only [List.forall_mem_append, List.forall_mem_cons]
      exact ⟨⟨⟨by decide, inName⟩, by decide, by decide, plain_value value⟩, by decide, nofun⟩

private theorem toList_startTag (tag : String) (props : Props) :
    (startTag tag props).toList =
      '<' :: (tag.toList ++
        ((attributes props).flatMap (fun written => written.html.toList) ++ ['>'])) := by
  simp [startTag, List.flatMap_map]

private theorem findStartTags_startTag {tag : String} (valid : Tag.isValid tag = true) (props : Props)
    (rest : List Char) :
    findStartTags ((startTag tag props).toList ++ rest) =
      ⟨tag, attributes props⟩ :: findStartTags rest := by
  have names : ∀ written ∈ attributes props, isAttributeName written.name = true :=
    fun _ => isAttributeName_of_mem_attributes
  have inside : ∀ c ∈ tag.toList ++
      ((attributes props).flatMap (fun written => written.html.toList) ++ ['>']), c ≠ '<' := by
    simp only [List.forall_mem_append, List.forall_mem_singleton]
    refine ⟨plain_tag valid, ?_, by decide⟩
    intro c member
    obtain ⟨written, listed, held⟩ := List.mem_flatMap.mp member
    exact plain_attribute (names written listed) c held
  have read : readStartTag? (tag.toList ++
      ((attributes props).flatMap (fun written => written.html.toList) ++ '>' :: rest)) =
        some ⟨tag, attributes props⟩ := by
    obtain ⟨c, more, follows, ends, -⟩ := attributes_end (attributes props) rest
    obtain ⟨taken, left⟩ := takeWhile_tag valid (not_isInner_of_endsName ends) more
    have enough : (attributes props).length ≤ (tag.toList ++ c :: more).length := by
      have fewer := length_attributes_le (attributes props)
      rw [← follows]
      simp only [List.length_append]
      omega
    have readOn := readAttributes_html names enough rest
    rw [follows] at readOn ⊢
    simp only [readStartTag?, taken, left, String.ofList_toList, valid, if_true, readOn,
      Option.map_some]
  rw [toList_startTag, List.cons_append, findStartTags, if_pos rfl,
    findStartTags_append_of_plain inside]
  simp only [List.append_assoc, List.cons_append, List.nil_append, read, Option.toList]

private theorem findStartTags_skip {c : Char} {chars : List Char} (ends : Tag.isInner c = false)
    (plain : ∀ d ∈ c :: chars, d ≠ '<') (rest : List Char) :
    findStartTags ('<' :: c :: chars ++ rest) = findStartTags rest := by
  have nothing : readStartTag? (c :: chars ++ rest) = none := by
    simp [readStartTag?, ends, Tag.isValid]
  rw [List.cons_append, findStartTags, if_pos rfl, nothing, findStartTags_append_of_plain plain]
  rfl

private theorem findStartTags_endTag {tag : String} (valid : Tag.isValid tag = true) (rest : List Char) :
    findStartTags ((endTag tag).toList ++ rest) = findStartTags rest := by
  have inside : ∀ c ∈ '/' :: (tag.toList ++ ['>']), c ≠ '<' := by
    simp only [List.forall_mem_append, List.forall_mem_cons]
    exact ⟨by decide, plain_tag valid, by decide, nofun⟩
  rw [toList_endTag]
  exact findStartTags_skip rfl inside rest

private theorem findStartTags_lineBreak (pretty : Bool) (tag : String) (rest : List Char) :
    findStartTags ((lineBreak pretty tag).toList ++ rest) = findStartTags rest := by
  apply findStartTags_append_of_plain
  unfold lineBreak
  split <;> simp

private theorem findStartTags_doctype (pretty : Bool) (rest : List Char) :
    findStartTags ((doctype pretty).toList ++ rest) = findStartTags rest := by
  cases pretty with
  | false =>
      have inside : ∀ c ∈ '!' :: "DOCTYPE html>".toList, c ≠ '<' := by simp
      exact findStartTags_skip rfl inside rest
  | true =>
      have inside : ∀ c ∈ '!' :: "DOCTYPE html>\n".toList, c ≠ '<' := by simp
      exact findStartTags_skip rfl inside rest

end Html

namespace Tree

variable {ι : Type}

mutual

/-- The start tags that are written for a tree. An element without content hides what stands
below it. -/
def startTags : Tree ι → List Html.StartTag
  | .text _ => []
  | .element _ tag attributes children =>
      ⟨tag, Html.attributes attributes⟩ ::
        if Html.voidTags.contains tag then [] else startTagsAll children
termination_by structural tree => tree

def startTagsAll : List (Tree ι) → List Html.StartTag
  | [] => []
  | tree :: trees => tree.startTags ++ startTagsAll trees
termination_by structural trees => trees

end

private theorem findStartTags_htmlAll {trees : List (Tree ι)} (valid : TagsValid trees) (pretty : Bool)
    (rest : List Char) :
    Html.findStartTags ((htmlAll pretty trees).toList ++ rest) =
      startTagsAll trees ++ Html.findStartTags rest := by
  induction trees using forestInduction generalizing rest with
  | nil => rfl
  | text content trees ih =>
      simp only [htmlAll, html, String.toList_append, List.append_assoc, Html.escape,
        String.toList_ofList]
      rw [Html.findStartTags_append_of_plain (Html.plain_text content), ih valid]
      rfl
  | element id tag attributes children trees childrenIH treesIH =>
      obtain ⟨own, inner, others⟩ := tagsValid_element_cons.mp valid
      simp only [htmlAll, html, startTagsAll, startTags, String.toList_append, List.append_assoc]
      rw [Html.findStartTags_startTag own]
      cases void : Html.voidTags.contains tag with
      | true =>
          simp only [if_true, String.toList_empty, List.nil_append]
          rw [Html.findStartTags_lineBreak, treesIH others]
          rfl
      | false =>
          simp only [Bool.false_eq_true, if_false, String.toList_append, List.append_assoc]
          rw [childrenIH inner, Html.findStartTags_endTag own, Html.findStartTags_lineBreak,
            treesIH others]
          simp

theorem mem_startTagsAll {trees : List (Tree ι)} {start : Html.StartTag}
    (member : start ∈ startTagsAll trees) :
    ∃ id attributes children, .element id start.tag attributes children ∈ elementsAll trees ∧
      start.attributes = Html.attributes attributes := by
  induction trees using forestInduction with
  | nil => cases member
  | text content trees ih => exact ih member
  | element id tag attributes children trees childrenIH treesIH =>
      rcases List.mem_append.mp member with here | later
      · rcases List.mem_cons.mp here with rfl | inside
        · exact ⟨id, attributes, children, List.mem_append_left _ List.mem_cons_self, rfl⟩
        · split at inside
          · cases inside
          · obtain ⟨id', attributes', children', held, same⟩ := childrenIH inside
            exact ⟨id', attributes', children',
              List.mem_append_left _ (List.mem_cons_of_mem _ held), same⟩
      · obtain ⟨id', attributes', children', held, same⟩ := treesIH later
        exact ⟨id', attributes', children', List.mem_append_right _ held, same⟩

end Tree

/-- However a document is written, the start tags found in it are those of its elements. -/
theorem Document.startTags_html {document : Document} (valid : Tree.TagsValid document)
    (options : Html.Options) :
    Html.startTags (document.html options) = Tree.startTagsAll document := by
  have found := Tree.findStartTags_htmlAll valid options.pretty []
  rw [List.append_nil] at found
  unfold html Html.startTags
  rw [String.toList_append]
  cases options.doctype with
  | false => simpa [Html.findStartTags] using found
  | true =>
      rw [if_pos rfl, Html.findStartTags_doctype, found]
      simp [Html.findStartTags]

end Quire
