import Mathlib.Data.List.Infix
import Mathlib.Data.List.TakeDrop
import Quire.Page.Outline

set_option autoImplicit false

/-!
Outlines of tables of contents can be read back.

A line of an outline gives its level by its indentation; what follows the last mark between value and
id is the id. The headings are put together from the last line to the first: a heading takes the trees
after it that stand deeper than itself as its own.
-/

namespace Quire

namespace Heading

@[elab_as_elim] theorem headingsInduction {motive : List Heading → Prop} (nil : motive [])
    (cons : ∀ value id children headings, motive children → motive headings →
      motive (⟨value, id, children⟩ :: headings))
    (headings : List Heading) : motive headings :=
  match headings with
  | [] => nil
  | ⟨value, id, children⟩ :: headings =>
      cons value id children headings (headingsInduction nil cons children)
        (headingsInduction nil cons headings)

structure Row where
  level : Nat
  value : String
  id : String

namespace Row

def chars (row : Row) : List Char :=
  List.replicate (2 * row.level) ' ' ++ '-' :: ' ' ::
    (row.value.toList ++ ' ' :: '(' :: '#' :: (row.id.toList ++ [')']))

/-- No line break in a row, and nothing in its id that looks like the mark before it. -/
structure Plain (row : Row) : Prop where
  value : '\n' ∉ row.value.toList
  id : '\n' ∉ row.id.toList
  unmarked : ¬ [' ', '(', '#'] <:+: row.id.toList

def splitMark : List Char → Option (List Char × List Char)
  | [] => none
  | '#' :: '(' :: ' ' :: rest => some ([], rest)
  | c :: rest => (splitMark rest).map fun (before, after) => (c :: before, after)

def read? (line : List Char) : Option Row :=
  let (indent, item) := line.span (· == ' ')
  match item with
  | '-' :: ' ' :: body =>
      match body.reverse with
      | ')' :: reversed =>
          (splitMark reversed).map fun (id, value) =>
            ⟨indent.length / 2, String.ofList value.reverse, String.ofList id.reverse⟩
      | _ => none
  | _ => none

end Row

mutual

def rows (level : Nat) : Heading → List Row
  | ⟨value, id, children⟩ => ⟨level, value, id⟩ :: rowsAll (level + 1) children
termination_by structural heading => heading

def rowsAll (level : Nat) : List Heading → List Row
  | [] => []
  | heading :: headings => heading.rows level ++ rowsAll level headings
termination_by structural headings => headings

end

/-- Puts a heading before trees that are read already; those that stand deeper become its own. -/
def attach (row : Row) (trees : List (Nat × Heading)) : List (Nat × Heading) :=
  let (deeper, others) := trees.span fun tree => row.level < tree.1
  (row.level, ⟨row.value, row.id, deeper.map Prod.snd⟩) :: others

def ofRows (rows : List Row) : List Heading :=
  (rows.foldr attach []).map Prod.snd

def ofOutline? (text : String) : Option (List Heading) :=
  ((text.toList.splitOn '\n').dropLast.mapM Row.read?).map ofRows

private theorem toList_outlineAll (level : Nat) (headings : List Heading) :
    (outlineAll level headings).toList =
      (rowsAll level headings).flatMap fun row => row.chars ++ ['\n'] := by
  induction headings using headingsInduction generalizing level with
  | nil => rfl
  | cons value id children headings childrenIH headingsIH =>
      have first : (line level value id).toList = Row.chars ⟨level, value, id⟩ ++ ['\n'] := by
        simp [line, Row.chars]
      rw [outlineAll, outline, rowsAll, rows, List.cons_append, List.flatMap_cons,
        List.flatMap_append, String.toList_append, String.toList_append, first, childrenIH,
        headingsIH, List.append_assoc]

namespace Row

variable {row : Row}

private theorem Plain.not_mem_chars (plain : row.Plain) : '\n' ∉ row.chars := by
  simp [chars, plain.value, plain.id]

private theorem splitOn_lines {rows : List Row} (plain : ∀ row ∈ rows, row.Plain) :
    (rows.flatMap fun row => row.chars ++ ['\n']).splitOn '\n' = rows.map chars ++ [[]] := by
  induction rows with
  | nil => rfl
  | cons row rows ih =>
      obtain ⟨here, later⟩ := List.forall_mem_cons.mp plain
      rw [List.flatMap_cons, List.append_assoc, List.singleton_append,
        List.splitOn_append_cons_self_of_not_mem here.not_mem_chars, ih later]
      rfl

private theorem splitMark_append {id : List Char} (unmarked : ¬ ['#', '(', ' '] <:+: id)
    (value : List Char) :
    splitMark (id ++ '#' :: '(' :: ' ' :: value) = some (id, value) := by
  induction id with
  | nil => rfl
  | cons c id ih =>
      have later : ¬ ['#', '(', ' '] <:+: id := fun marked => unmarked (List.infix_cons marked)
      have passed : ∀ rest, c = '#' →
          id ++ '#' :: '(' :: ' ' :: value = '(' :: ' ' :: rest → False := by
        rintro rest rfl same
        match id with
        | [] => cases same
        | [d] => cases same
        | d :: e :: id =>
            cases same
            exact unmarked ⟨[], id, rfl⟩
      rw [List.cons_append, splitMark]
      · rw [ih later]
        rfl
      · exact passed

private theorem read?_chars (plain : row.Plain) : read? row.chars = some row := by
  obtain ⟨level, value, id⟩ := row
  have unmarked : ¬ ['#', '(', ' '] <:+: id.toList.reverse := by
    intro marked
    have forwards := List.reverse_infix.mpr marked
    rw [List.reverse_reverse] at forwards
    exact plain.unmarked forwards
  have split := splitMark_append unmarked value.toList.reverse
  have blank : ∀ c ∈ List.replicate (2 * level) ' ', (c == ' ') = true := by simp
  unfold read? chars
  rw [List.span_eq_takeWhile_dropWhile, List.takeWhile_append_of_pos blank,
    List.dropWhile_append_of_pos blank]
  simp [split]

private theorem mapM_read?_chars {rows : List Row} (plain : ∀ row ∈ rows, row.Plain) :
    (rows.map chars).mapM read? = some rows := by
  induction rows with
  | nil => rfl
  | cons row rows ih =>
      obtain ⟨here, later⟩ := List.forall_mem_cons.mp plain
      rw [List.map_cons, List.mapM_cons, read?_chars here, ih later]
      rfl

end Row

private theorem attach_below {level : Nat} {value id : String} {children : List Heading}
    {trees : List (Nat × Heading)} (shallow : ∀ tree ∈ trees.head?, tree.1 ≤ level) :
    attach ⟨level, value, id⟩ (children.map (fun child => (level + 1, child)) ++ trees) =
      (level, ⟨value, id, children⟩) :: trees := by
  have deeper : ∀ tree ∈ children.map (fun child => (level + 1, child)),
      decide (level < tree.1) = true := by
    simp
  have none : trees.takeWhile (fun tree => level < tree.1) = [] ∧
      trees.dropWhile (fun tree => level < tree.1) = trees := by
    cases trees with
    | nil => exact ⟨rfl, rfl⟩
    | cons tree trees =>
        have other : tree.1 ≤ level := shallow tree rfl
        simp [Nat.not_lt.mpr other]
  simp only [attach, List.span_eq_takeWhile_dropWhile]
  rw [List.takeWhile_append_of_pos deeper, List.dropWhile_append_of_pos deeper, none.1, none.2]
  simp [Function.comp_def]

/-- Reading goes from the last row to the first: what stands after some headings is read before them, and
is not taken for a part of them as long as it does not stand deeper. -/
theorem foldr_attach_rowsAll (level : Nat) (headings : List Heading) {trees : List (Nat × Heading)}
    (shallow : ∀ tree ∈ trees.head?, tree.1 ≤ level) :
    (rowsAll level headings).foldr attach trees =
      headings.map (fun heading => (level, heading)) ++ trees := by
  induction headings using headingsInduction generalizing level trees with
  | nil => rfl
  | cons value id children headings childrenIH headingsIH =>
      have after : ∀ tree ∈ (headings.map (fun heading => (level, heading)) ++ trees).head?,
          tree.1 ≤ level := by
        cases headings with
        | nil => exact shallow
        | cons heading headings => simp
      have below := fun tree found => Nat.le_succ_of_le (after tree found)
      rw [rowsAll, rows, List.foldr_append, headingsIH level shallow, List.foldr_cons,
        childrenIH (level + 1) below, attach_below after]
      rfl

private theorem ofRows_rowsAll (headings : List Heading) : ofRows (rowsAll 0 headings) = headings := by
  rw [ofRows, foldr_attach_rowsAll 0 headings (by simp)]
  simp [Function.comp_def]

private theorem splitOn_outlineAll {headings : List Heading}
    (plain : ∀ row ∈ rowsAll 0 headings, row.Plain) :
    (outlineAll 0 headings).toList.splitOn '\n' = (rowsAll 0 headings).map Row.chars ++ [[]] := by
  rw [toList_outlineAll, Row.splitOn_lines plain]

private theorem ofOutline?_outlineAll {headings : List Heading}
    (plain : ∀ row ∈ rowsAll 0 headings, row.Plain) :
    ofOutline? (outlineAll 0 headings) = some headings := by
  rw [ofOutline?, splitOn_outlineAll plain, List.dropLast_concat, Row.mapM_read?_chars plain,
    Option.map_some, ofRows_rowsAll]

/-- The outline of a table of contents determines it. Between its line breaks there is one line for each
heading, in document order and indented by twice its level; the headings can be read back from it, values,
ids and nesting; so tables of contents with the same outline are the same. -/
theorem outline_determines_headings {headings : List Heading}
    (plain : ∀ row ∈ rowsAll 0 headings, row.Plain) :
    (outlineAll 0 headings).toList.splitOn '\n' = (rowsAll 0 headings).map Row.chars ++ [[]] ∧
    ofOutline? (outlineAll 0 headings) = some headings ∧
    ∀ others, (∀ row ∈ rowsAll 0 others, row.Plain) →
      outlineAll 0 others = outlineAll 0 headings → others = headings := by
  refine ⟨splitOn_outlineAll plain, ofOutline?_outlineAll plain, ?_⟩
  intro others plainOthers same
  apply Option.some.inj
  rw [← ofOutline?_outlineAll plainOthers, same, ofOutline?_outlineAll plain]

def markedContents : List Heading :=
  [⟨"See (#a)", "b (c", [⟨"- inner ", "", []⟩, ⟨"", "#", []⟩]⟩, ⟨"end", " ", []⟩]

theorem outline_determines_markedContents :
    (∀ row ∈ rowsAll 0 markedContents, row.Plain) ∧
      (outlineAll 0 markedContents).toList.splitOn '\n' =
        ["- See (#a) (#b (c)".toList, "  - - inner  (#)".toList, "  -  (##)".toList,
          "- end (# )".toList, []] ∧
      ofOutline? (outlineAll 0 markedContents) = some markedContents := by
  have plain : ∀ row ∈ rowsAll 0 markedContents, row.Plain := by
    simp only [markedContents, rowsAll, rows, List.nil_append, List.cons_append, List.forall_mem_cons]
    refine ⟨⟨?_, ?_, ?_⟩, ⟨?_, ?_, ?_⟩, ⟨?_, ?_, ?_⟩, ⟨?_, ?_, ?_⟩, nofun⟩ <;> decide
  obtain ⟨lines, read, -⟩ := outline_determines_headings plain
  exact ⟨plain, lines.trans rfl, read⟩

end Heading
end Quire
