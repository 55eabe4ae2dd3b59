import Quire.Proofs.Markup.NormalForm

set_option autoImplicit false

/-!
A reader of markup, and that it reads well-formed markup back.

The reader takes a text up to the next `<`, and a start tag as a name, attributes up to `>`, and
content up to its end tag. None of the characters it stops at can stand in what it reads: texts and
values are escaped, and names cannot hold them.
-/

namespace Quire.Html

/-- Replaces the entities of escaped text by the characters they stand for. -/
def unescape : List Char → List Char
  | '&' :: 'a' :: 'm' :: 'p' :: ';' :: rest => '&' :: unescape rest
  | '&' :: 'l' :: 't' :: ';' :: rest => '<' :: unescape rest
  | '&' :: 'g' :: 't' :: ';' :: rest => '>' :: unescape rest
  | '&' :: 'q' :: 'u' :: 'o' :: 't' :: ';' :: rest => '"' :: unescape rest
  | c :: rest => c :: unescape rest
  | [] => []

def endsName (c : Char) : Bool :=
  c == ' ' || c == '=' || c == '>'

def readValue : List Char → Option String × List Char
  | '=' :: '"' :: rest =>
      (some (String.ofList (unescape (rest.takeWhile (· != '"')))),
        (rest.dropWhile (· != '"')).drop 1)
  | rest => (none, rest)

def readAttributes : Nat → List Char → Option (List Attribute × List Char)
  | fuel + 1, ' ' :: rest => do
      let name := rest.takeWhile fun c => !endsName c
      let (value, rest) := readValue (rest.dropWhile fun c => !endsName c)
      let (attributes, rest) ← readAttributes fuel rest
      return (⟨String.ofList name, value⟩ :: attributes, rest)
  | _, '>' :: rest => some ([], rest)
  | _, _ => none

def readEndTag (tag : String) (input : List Char) : Option (List Char) :=
  if (endTag tag).toList.isPrefixOf input then some (input.drop (endTag tag).toList.length)
  else none

/-- Reads markup up to an end tag or the end of the input. Every call takes at least one character,
so the length of the input bounds their number. -/
def readMarkup : Nat → List Char → Option (List Markup × List Char)
  | 0, _ => none
  | _ + 1, [] => some ([], [])
  | _ + 1, '<' :: '/' :: rest => some ([], '<' :: '/' :: rest)
  | fuel + 1, '<' :: rest => do
      let tag := String.ofList (rest.takeWhile Tag.isInner)
      let rest := rest.dropWhile Tag.isInner
      let (attributes, rest) ← readAttributes rest.length rest
      if voidTags.contains tag then
        let (siblings, rest) ← readMarkup fuel rest
        return (.element tag attributes [] :: siblings, rest)
      else
        let (children, rest) ← readMarkup fuel rest
        let rest ← readEndTag tag rest
        let (siblings, rest) ← readMarkup fuel rest
        return (.element tag attributes children :: siblings, rest)
  | fuel + 1, input => do
      let content := String.ofList (unescape (input.takeWhile (· != '<')))
      let (siblings, rest) ← readMarkup fuel (input.dropWhile (· != '<'))
      return (.text content :: siblings, rest)

def read (text : String) : Option (List Markup) :=
  match readMarkup (text.toList.length + 1) text.toList with
  | some (markup, []) => some markup
  | _ => none

private theorem unescape_cons {c : Char} (plain : c ≠ '&') (rest : List Char) :
    unescape (c :: rest) = c :: unescape rest := by
  rw [unescape]
  all_goals
    intro _ entity
    exact absurd entity plain

private theorem escapeText_cases (c : Char) :
    (c = '&' ∨ c = '<' ∨ c = '>') ∨ (c ≠ '&' ∧ c ≠ '<' ∧ escapeText c = [c]) := by
  by_cases amp : c = '&'
  · exact .inl (.inl amp)
  · by_cases less : c = '<'
    · exact .inl (.inr (.inl less))
    · by_cases greater : c = '>'
      · exact .inl (.inr (.inr greater))
      · exact .inr ⟨amp, less, by simp [escapeText]⟩

theorem escapeValue_cases (c : Char) :
    c = '"' ∨ (c ≠ '"' ∧ escapeValue c = escapeText c) := by
  by_cases quote : c = '"'
  · exact .inl quote
  · exact .inr ⟨quote, by simp [escapeValue]⟩

private theorem unescape_escapeText (c : Char) (rest : List Char) :
    unescape (escapeText c ++ rest) = c :: unescape rest := by
  rcases escapeText_cases c with (rfl | rfl | rfl) | ⟨plain, -, same⟩
  · rfl
  · rfl
  · rfl
  · rw [same]
    exact unescape_cons plain rest

private theorem unescape_escapeValue (c : Char) (rest : List Char) :
    unescape (escapeValue c ++ rest) = c :: unescape rest := by
  rcases escapeValue_cases c with rfl | ⟨-, same⟩
  · rfl
  · rw [same]
    exact unescape_escapeText c rest

private theorem unescape_flatMap {escapeChar : Char → List Char}
    (inverts : ∀ c rest, unescape (escapeChar c ++ rest) = c :: unescape rest) (text : List Char) :
    unescape (text.flatMap escapeChar) = text := by
  induction text with
  | nil => rfl
  | cons c text ih => rw [List.flatMap_cons, inverts, ih]

def entityChars : List Char := ['&', 'a', 'm', 'p', 'l', 't', 'g', ';']

private theorem mem_escapeText {c d : Char} (member : d ∈ escapeText c) :
    d ∈ entityChars ∨ (d = c ∧ c ≠ '<') := by
  rcases escapeText_cases c with special | ⟨-, plain, same⟩
  · have inEntity : escapeText c ⊆ entityChars := by
      rcases special with rfl | rfl | rfl <;> simp [escapeText, entityChars]
    exact .inl (inEntity member)
  · rw [same] at member
    exact .inr ⟨List.mem_singleton.mp member, plain⟩

theorem not_open_of_mem_escapeText {c d : Char} (member : d ∈ escapeText c) : d ≠ '<' := by
  have notEntity : ∀ d ∈ entityChars, d ≠ '<' := by simp [entityChars]
  rcases mem_escapeText member with entity | ⟨rfl, plain⟩
  · exact notEntity d entity
  · exact plain

private theorem not_quote_of_mem_escapeValue {c d : Char} (member : d ∈ escapeValue c) : d ≠ '"' := by
  rcases escapeValue_cases c with rfl | ⟨plain, same⟩
  · have notQuote : ∀ d ∈ escapeValue '"', d ≠ '"' := by simp [escapeValue]
    exact notQuote d member
  · rw [same] at member
    have notEntity : ∀ d ∈ entityChars, d ≠ '"' := by simp [entityChars]
    rcases mem_escapeText member with entity | ⟨rfl, -⟩
    · exact notEntity d entity
    · exact plain

private theorem not_endsName_of_mem {name : String} (valid : isAttributeName name = true) {c : Char}
    (member : c ∈ name.toList) : endsName c = false := by
  simp only [isAttributeName, Bool.and_eq_true, List.all_eq_true] at valid
  have kept := valid.2 c member
  cases ends : endsName c with
  | false => rfl
  | true =>
      simp only [endsName, Bool.or_eq_true, beq_iff_eq] at ends
      rcases ends with (rfl | rfl) | rfl
      · exact absurd kept (by decide)
      · exact absurd kept (by decide)
      · exact absurd kept (by decide)

theorem Attribute.toList_html_none (name : String) :
    (Attribute.html ⟨name, none⟩).toList = ' ' :: name.toList := by
  simp [Attribute.html]

theorem Attribute.toList_html_some (name value : String) :
    (Attribute.html ⟨name, some value⟩).toList =
      ' ' :: name.toList ++ '=' :: '"' :: value.toList.flatMap escapeValue ++ ['"'] := by
  simp [Attribute.html, escape]

private theorem takeWhile_name {name : String} (valid : isAttributeName name = true) {c : Char}
    (ends : endsName c = true) (rest : List Char) :
    (name.toList ++ c :: rest).takeWhile (fun c => !endsName c) = name.toList ∧
      (name.toList ++ c :: rest).dropWhile (fun c => !endsName c) = c :: rest := by
  have inside : ∀ c ∈ name.toList, (!endsName c) = true := by
    intro c member
    simp [not_endsName_of_mem valid member]
  rw [List.takeWhile_append_of_pos inside, List.dropWhile_append_of_pos inside]
  simp [ends]

private theorem readValue_quoted (value : String) (rest : List Char) :
    readValue ('=' :: '"' :: (value.toList.flatMap escapeValue ++ '"' :: rest)) =
      (some value, rest) := by
  have inside : ∀ c ∈ value.toList.flatMap escapeValue, (c != '"') = true := by
    intro c member
    obtain ⟨source, -, escaped⟩ := List.mem_flatMap.mp member
    simpa using not_quote_of_mem_escapeValue escaped
  simp only [readValue, List.takeWhile_append_of_pos inside, List.dropWhile_append_of_pos inside]
  simp [unescape_flatMap unescape_escapeValue]

theorem attributes_end (attributes : List Attribute) (rest : List Char) :
    ∃ c more, attributes.flatMap (fun written => written.html.toList) ++ '>' :: rest = c :: more ∧
      endsName c = true ∧ c ≠ '=' := by
  cases attributes with
  | nil => exact ⟨'>', rest, rfl, rfl, by decide⟩
  | cons written attributes =>
      obtain ⟨name, value⟩ := written
      rw [List.flatMap_cons]
      cases value with
      | none =>
          rw [Attribute.toList_html_none]
          exact ⟨' ', _, rfl, rfl, by decide⟩
      | some value =>
          rw [Attribute.toList_html_some]
          exact ⟨' ', _, rfl, rfl, by decide⟩

theorem readAttributes_html {attributes : List Attribute}
    (names : ∀ written ∈ attributes, isAttributeName written.name = true) {fuel : Nat}
    (enough : attributes.length ≤ fuel) (rest : List Char) :
    readAttributes fuel (attributes.flatMap (fun written => written.html.toList) ++ '>' :: rest) =
      some (attributes, rest) := by
  induction attributes generalizing fuel with
  | nil => cases fuel <;> rfl
  | cons written attributes ih =>
      obtain ⟨fuel, rfl⟩ : ∃ smaller, fuel = smaller + 1 :=
        ⟨fuel - 1, by simp only [List.length_cons] at enough; omega⟩
      have readRest := ih (fun other member => names other (by simp [member]))
        (by simpa using enough)
      obtain ⟨name, value⟩ := written
      have valid : isAttributeName name = true := names ⟨name, value⟩ (by simp)
      cases value with
      | none =>
          obtain ⟨c, more, follows, ends, unequal⟩ := attributes_end attributes rest
          obtain ⟨taken, left⟩ := takeWhile_name valid ends more
          rw [follows] at readRest
          rw [List.flatMap_cons, Attribute.toList_html_none, List.append_assoc, follows]
          have noValue : readValue (c :: more) = (none, c :: more) := by
            rw [readValue]
            rintro _ ⟨⟩
            exact unequal rfl
          simp [readAttributes, taken, left, noValue, readRest]
      | some value =>
          have equals : endsName '=' = true := rfl
          obtain ⟨taken, left⟩ := takeWhile_name valid equals ('"' ::
            (value.toList.flatMap escapeValue ++ '"' ::
              (attributes.flatMap (fun written => written.html.toList) ++ '>' :: rest)))
          rw [List.flatMap_cons, Attribute.toList_html_some]
          simp only [List.cons_append, List.append_assoc, List.nil_append]
          simp [readAttributes, taken, left, readValue_quoted, readRest]

private theorem readEndTag_endTag (tag : String) (rest : List Char) :
    readEndTag tag ((endTag tag).toList ++ rest) = some rest := by
  have here : (endTag tag).toList.isPrefixOf ((endTag tag).toList ++ rest) = true :=
    List.isPrefixOf_iff_prefix.mpr (List.prefix_append ..)
  simp [readEndTag, here]

theorem toList_endTag (tag : String) :
    (endTag tag).toList = '<' :: '/' :: tag.toList ++ ['>'] := by
  simp [endTag]

theorem exists_letter_of_isValid {tag : String} (valid : Tag.isValid tag = true) :
    ∃ first rest, tag.toList = first :: rest ∧ first.isAlpha = true ∧
      ∀ c ∈ rest, Tag.isInner c = true := by
  cases characters : tag.toList with
  | nil => simp [Tag.isValid, characters] at valid
  | cons first rest =>
      simp only [Tag.isValid, characters, Bool.and_eq_true, List.all_eq_true] at valid
      exact ⟨first, rest, rfl, valid.1, valid.2⟩

theorem takeWhile_tag {tag : String} (valid : Tag.isValid tag = true) {c : Char}
    (ends : Tag.isInner c = false) (rest : List Char) :
    (tag.toList ++ c :: rest).takeWhile Tag.isInner = tag.toList ∧
      (tag.toList ++ c :: rest).dropWhile Tag.isInner = c :: rest := by
  obtain ⟨first, others, characters, letter, inner⟩ := exists_letter_of_isValid valid
  have inside : ∀ c ∈ tag.toList, Tag.isInner c = true := by
    intro c member
    rw [characters] at member
    rcases List.mem_cons.mp member with rfl | member
    · simp [Tag.isInner, Char.isAlphanum, letter]
    · exact inner c member
  rw [List.takeWhile_append_of_pos inside, List.dropWhile_append_of_pos inside]
  simp [ends]

inductive Stops : List Char → Prop where
  | atEnd : Stops []
  | atEndTag {rest} : Stops ('<' :: '/' :: rest)

private theorem takeWhile_of_not_text {markup : List Markup} (apart : Markup.startsWithText markup = false)
    {rest : List Char} (stops : Stops rest) :
    (Markup.charsAll markup ++ rest).takeWhile (· != '<') = [] ∧
      (Markup.charsAll markup ++ rest).dropWhile (· != '<') = Markup.charsAll markup ++ rest := by
  cases markup with
  | nil => cases stops <;> simp [Markup.charsAll]
  | cons piece markup =>
      cases piece with
      | text content => simp [Markup.startsWithText] at apart
      | element tag attributes children => simp [Markup.charsAll, Markup.chars]

private theorem readMarkup_stops {rest : List Char} (stops : Stops rest) (fuel : Nat) :
    readMarkup (fuel + 1) rest = some ([], rest) := by
  cases stops with
  | atEnd => rfl
  | atEndTag => rfl

private theorem readMarkup_text {c : Char} (plain : c ≠ '<') {fuel : Nat} {input rest : List Char}
    {siblings : List Markup}
    (following : readMarkup fuel ((c :: input).dropWhile (· != '<')) = some (siblings, rest)) :
    readMarkup (fuel + 1) (c :: input) =
      some (.text (String.ofList (unescape ((c :: input).takeWhile (· != '<')))) :: siblings,
        rest) := by
  rw [readMarkup]
  · simp [following]
  · rintro ⟨⟩
  · rintro _ ⟨⟩
    exact plain rfl
  · rintro _ ⟨⟩
    exact plain rfl

theorem not_isInner_of_endsName {c : Char} (ends : endsName c = true) : Tag.isInner c = false := by
  simp only [endsName, Bool.or_eq_true, beq_iff_eq] at ends
  rcases ends with (rfl | rfl) | rfl
  · rfl
  · rfl
  · rfl

theorem length_attributes_le (attributes : List Attribute) :
    attributes.length ≤ (attributes.flatMap fun written => written.html.toList).length := by
  induction attributes with
  | nil => exact Nat.le_refl 0
  | cons written attributes ih =>
      obtain ⟨name, value⟩ := written
      have taken : 1 ≤ (Attribute.html ⟨name, value⟩).toList.length := by
        cases value with
        | none => simp [Attribute.toList_html_none]
        | some value => simp [Attribute.toList_html_some]
      simp only [List.flatMap_cons, List.length_append, List.length_cons]
      omega

private theorem readMarkup_startTag {tag : String} (valid : Tag.isValid tag = true)
    {attributes : List Attribute}
    (names : ∀ written ∈ attributes, isAttributeName written.name = true) (fuel : Nat)
    (rest : List Char) :
    readMarkup (fuel + 1) ('<' :: (tag.toList ++
        (attributes.flatMap (fun written => written.html.toList) ++ '>' :: rest))) =
      if voidTags.contains tag then do
        let (siblings, rest) ← readMarkup fuel rest
        return (.element tag attributes [] :: siblings, rest)
      else do
        let (children, rest) ← readMarkup fuel rest
        let rest ← readEndTag tag rest
        let (siblings, rest) ← readMarkup fuel rest
        return (.element tag attributes children :: siblings, rest) := by
  obtain ⟨c, more, follows, ends, -⟩ := attributes_end attributes rest
  obtain ⟨taken, left⟩ := takeWhile_tag valid (not_isInner_of_endsName ends) more
  have read : readAttributes (c :: more).length (c :: more) = some (attributes, rest) := by
    rw [← follows]
    apply readAttributes_html names
    have fewer := length_attributes_le attributes
    simp only [List.length_append]
    omega
  rw [follows]
  obtain ⟨first, others, characters, letter, -⟩ := exists_letter_of_isValid valid
  rw [readMarkup]
  · simp only [taken, left, read, String.ofList_toList]
    rfl
  · intro rest slash
    rw [characters] at slash
    cases slash
    exact absurd letter (by decide)

namespace Markup

private theorem charsAll_void_append {tag : String} (isVoid : voidTags.contains tag = true)
    (attributes : List Attribute) (children others : List Markup) (rest : List Char) :
    charsAll (.element tag attributes children :: others) ++ rest =
      '<' :: (tag.toList ++ (attributes.flatMap (fun written => written.html.toList) ++ '>' ::
        (charsAll others ++ rest))) := by
  simp only [charsAll, chars, isVoid, if_true, List.cons_append, List.append_assoc, List.nil_append]

private theorem charsAll_element_append {tag : String} (notVoid : voidTags.contains tag = false)
    (attributes : List Attribute) (children others : List Markup) (rest : List Char) :
    charsAll (.element tag attributes children :: others) ++ rest =
      '<' :: (tag.toList ++ (attributes.flatMap (fun written => written.html.toList) ++ '>' ::
        (charsAll children ++ ((endTag tag).toList ++ (charsAll others ++ rest))))) := by
  simp only [charsAll, chars, notVoid, Bool.false_eq_true, if_false, List.cons_append,
    List.append_assoc]

private theorem exists_plain_of_chars {content : String} (written : content ≠ "") :
    ∃ c more, content.toList.flatMap escapeText = c :: more ∧ c ≠ '<' := by
  cases characters : content.toList with
  | nil => exact absurd (String.toList_eq_nil_iff.mp characters) written
  | cons first others =>
      rw [List.flatMap_cons]
      cases escaped : escapeText first with
      | nil =>
          have undone := unescape_escapeText first []
          rw [escaped] at undone
          cases undone
      | cons c more =>
          have plain : c ≠ '<' := not_open_of_mem_escapeText (c := first) (by simp [escaped])
          exact ⟨c, _, rfl, plain⟩

end Markup

/-- Well-formed markup is read back, up to the end tag or the end of the input after it. -/
theorem readMarkup_charsAll {markup : List Markup} (formed : Markup.WellFormed markup) {fuel : Nat}
    (enough : (Markup.charsAll markup).length < fuel) {rest : List Char} (stops : Stops rest) :
    readMarkup fuel (Markup.charsAll markup ++ rest) = some (markup, rest) := by
  induction formed generalizing fuel rest with
  | nil =>
      obtain ⟨fuel, rfl⟩ : ∃ smaller, fuel = smaller + 1 := ⟨fuel - 1, by omega⟩
      exact readMarkup_stops stops fuel
  | @text content others written apart formed ih =>
      obtain ⟨fuel, rfl⟩ : ∃ smaller, fuel = smaller + 1 := ⟨fuel - 1, by omega⟩
      obtain ⟨c, more, begins, plain⟩ := Markup.exists_plain_of_chars written
      have inside : ∀ c ∈ content.toList.flatMap escapeText, (c != '<') = true := by
        intro c member
        obtain ⟨source, -, escaped⟩ := List.mem_flatMap.mp member
        simpa using not_open_of_mem_escapeText escaped
      obtain ⟨taken, left⟩ := takeWhile_of_not_text apart stops
      have shorter : (Markup.charsAll others).length < fuel := by
        rw [Markup.charsAll, Markup.chars, begins] at enough
        simp only [List.length_append, List.length_cons] at enough
        omega
      have input : Markup.charsAll (.text content :: others) ++ rest =
          c :: (more ++ (Markup.charsAll others ++ rest)) := by
        rw [Markup.charsAll, Markup.chars, begins, List.append_assoc, List.cons_append]
      have joined : c :: (more ++ (Markup.charsAll others ++ rest)) =
          content.toList.flatMap escapeText ++ (Markup.charsAll others ++ rest) := by
        rw [begins, List.cons_append]
      have remainder : (c :: (more ++ (Markup.charsAll others ++ rest))).dropWhile (· != '<') =
          Markup.charsAll others ++ rest := by
        rw [joined, List.dropWhile_append_of_pos inside, left]
      have run : (c :: (more ++ (Markup.charsAll others ++ rest))).takeWhile (· != '<') =
          content.toList.flatMap escapeText := by
        rw [joined, List.takeWhile_append_of_pos inside, taken, List.append_nil]
      rw [input, readMarkup_text plain (remainder ▸ ih shorter stops), run,
        unescape_flatMap unescape_escapeText, String.ofList_toList]
  | @void tag attributes others valid isVoid names formed ih =>
      obtain ⟨fuel, rfl⟩ : ∃ smaller, fuel = smaller + 1 := ⟨fuel - 1, by omega⟩
      have length := congrArg List.length
        (Markup.charsAll_void_append isVoid attributes [] others [])
      simp only [List.append_nil, List.length_cons, List.length_append] at length
      rw [Markup.charsAll_void_append isVoid, readMarkup_startTag valid names, if_pos isVoid,
        ih (by omega) stops]
      rfl
  | @element tag attributes children others valid notVoid names _ _ childrenIH othersIH =>
      obtain ⟨fuel, rfl⟩ : ∃ smaller, fuel = smaller + 1 := ⟨fuel - 1, by omega⟩
      have length := congrArg List.length
        (Markup.charsAll_element_append notVoid attributes children others [])
      simp only [List.append_nil, List.length_cons, List.length_append] at length
      have closed : Stops ((endTag tag).toList ++ (Markup.charsAll others ++ rest)) := by
        rw [toList_endTag]
        exact .atEndTag
      have readOthers : readMarkup fuel (Markup.charsAll others ++ rest) = some (others, rest) :=
        othersIH (by omega) stops
      rw [Markup.charsAll_element_append notVoid, readMarkup_startTag valid names,
        if_neg (Bool.eq_false_iff.mp notVoid), childrenIH (by omega) closed]
      simp [readEndTag_endTag, readOthers]

theorem read_charsAll {markup : List Markup} (formed : Markup.WellFormed markup) {text : String}
    (written : text.toList = Markup.charsAll markup) : read text = some markup := by
  have ran := readMarkup_charsAll formed (Nat.lt_succ_self _) .atEnd
  rw [List.append_nil] at ran
  simp only [read, written, ran]

end Quire.Html
