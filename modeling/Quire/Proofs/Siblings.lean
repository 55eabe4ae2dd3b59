import Quire.Proofs.Numbering

set_option autoImplicit false

/-!
Siblings are rendered independently of each other.

Of everything that a pass has done, only the id it hands on can reach the next sibling, and that id
does no more than shift the numbers of what follows: a pass that starts later gives the same trees
under later ids, or the same error. Registries put in view inside one sibling end with it, also when
it fails.
-/

namespace Quire

namespace Tree

mutual

def shift (offset : Nat) : Tree Nat → Tree Nat
  | .text content => .text content
  | .element id tag attributes children =>
      .element (id + offset) tag attributes (shiftAll offset children)
termination_by structural tree => tree

def shiftAll (offset : Nat) : List (Tree Nat) → List (Tree Nat)
  | [] => []
  | tree :: trees => tree.shift offset :: shiftAll offset trees
termination_by structural trees => trees

end

@[simp] theorem shiftAll_append (offset : Nat) (trees others : List (Tree Nat)) :
    shiftAll offset (trees ++ others) = shiftAll offset trees ++ shiftAll offset others := by
  induction trees with
  | nil => rfl
  | cons tree trees ih => simp [shiftAll, ih]

end Tree

namespace Pass

def shiftReached (offset : Nat) (reached : List (Tree Nat) × Nat) : List (Tree Nat) × Nat :=
  (Tree.shiftAll offset reached.1, reached.2 + offset)

private theorem result_concatMap_shift {β : Type} {expand : β → Pass (List (Tree Nat))} {offset : Nat}
    (shifts : ∀ item next, ((expand item).run (next + offset)).result =
      ((expand item).run next).result.map (shiftReached offset))
    (items : List β) (next : Nat) :
    ((concatMap expand items).run (next + offset)).result =
      ((concatMap expand items).run next).result.map (shiftReached offset) := by
  induction items generalizing next with
  | nil => rfl
  | cons item items ih =>
      rw [result_concatMap_cons, result_concatMap_cons, shifts item next]
      cases ((expand item).run next).result with
      | error error => rfl
      | ok reached =>
          obtain ⟨trees, middle⟩ := reached
          show ((concatMap expand items).run (middle + offset)).result >>= _ =
            Except.map _ (((concatMap expand items).run middle).result >>= _)
          rw [ih middle]
          cases ((concatMap expand items).run middle).result with
          | error error => rfl
          | ok rest => simp [bind, Except.bind, Except.map, shiftReached]

end Pass

namespace Node

/-- A node that is expanded later gives the same trees under later ids, or the same error. -/
theorem result_expand_shift (library : Library) (limit offset budget : Nat) (registry : Registry)
    (node : Node) (next : Nat) :
    ((node.expand library limit budget registry).run (next + offset)).result =
      ((node.expand library limit budget registry).run next).result.map
        (Pass.shiftReached offset) := by
  induction budget generalizing registry node next with
  | zero => rfl
  | succ budget ih =>
      cases node with
      | empty | text content | number value => rfl
      | fragment children => exact Pass.result_concatMap_shift (ih registry) children next
      | provider overrides children =>
          simp only [run_expand_provider, Expansion.record_bind]
          exact Pass.result_concatMap_shift (ih (overrides.view registry)) children next
      | element reference props children handle =>
          simp only [run_expand_element, Expansion.result_bind]
          cases (Element.dispatch library registry ⟨reference, props, children, handle⟩).result with
          | error error => rfl
          | ok rendered => exact ih registry rendered next
      | host tag attributes children handle =>
          cases valid : Tag.isValid tag with
          | false => simp only [run_expand_host_of_invalid valid]; rfl
          | true =>
              have inner := Pass.result_concatMap_shift (ih registry) children (next + 1)
              rw [Nat.add_right_comm] at inner
              simp only [run_expand_host valid, Expansion.record_bind, Expansion.result_bind, inner]
              cases ((Pass.concatMap (expand library limit budget registry) children).run
                  (next + 1)).result with
              | error error => rfl
              | ok reached => rfl

end Node

namespace Document

/-- Documents one after the other, each renumbered to follow on those before it. The first starts
with the id `offset`. -/
def concatFrom (offset : Nat) : List Document → Document
  | [] => []
  | document :: documents =>
      Tree.shiftAll offset document ++ concatFrom (offset + document.elements.length) documents

def concat (documents : List Document) : Document :=
  concatFrom 0 documents

end Document

namespace Node

variable {library : Library} {limit : Nat} {registry : Registry}

private theorem render_fragment_result (nodes : List Node) :
    ((Node.fragment nodes).render library limit registry).result =
      ((Pass.concatMap (expand library (effectiveLimit limit) (effectiveLimit limit) registry)
        nodes).run 0).result.map Prod.fst := by
  rw [result_render, Pass.concatMap_singleton]
  rfl

private theorem result_expand_of_alone {node : Node} {document : Document}
    (alone : ((Node.fragment [node]).render library limit registry).result = .ok document)
    (next : Nat) :
    ((node.expand library (effectiveLimit limit) (effectiveLimit limit) registry).run next).result =
      .ok (Tree.shiftAll next document, next + document.elements.length) := by
  rw [render_fragment_result, Pass.concatMap_singleton] at alone
  have shifted := result_expand_shift library (effectiveLimit limit) next (effectiveLimit limit)
    registry node 0
  cases ran : (node.expand library (effectiveLimit limit) (effectiveLimit limit) registry).run 0
    with
  | mk steps result =>
      cases result with
      | error error => simp [ran, Except.map] at alone
      | ok reached =>
          obtain ⟨trees, final⟩ := reached
          have same : trees = document := by simpa [ran, Except.map] using alone
          subst same
          have counted := ((Expands.singleton_iff_run _).mpr ran).final_eq
          rw [Nat.zero_add] at shifted counted
          rw [shifted, ran, counted, Nat.add_comm next]
          rfl

private theorem result_expand_of_alone_error {node : Node} {error : RenderError}
    (alone : ((Node.fragment [node]).render library limit registry).result = .error error)
    (next : Nat) :
    ((node.expand library (effectiveLimit limit) (effectiveLimit limit) registry).run next).result =
      .error error := by
  rw [render_fragment_result, Pass.concatMap_singleton] at alone
  have shifted := result_expand_shift library (effectiveLimit limit) next (effectiveLimit limit)
    registry node 0
  rw [Nat.zero_add] at shifted
  rw [shifted]
  cases ran : ((node.expand library (effectiveLimit limit) (effectiveLimit limit) registry).run
      0).result with
  | error other =>
      rw [ran] at alone
      cases alone
      rfl
  | ok reached =>
      rw [ran] at alone
      cases alone

private theorem result_concatMap_of_alone {nodes : List Node} {documents : List Document}
    (alone : (nodes.map fun node =>
      ((Node.fragment [node]).render library limit registry).result) = documents.map .ok)
    (next : Nat) :
    ∃ final, ((Pass.concatMap (expand library (effectiveLimit limit) (effectiveLimit limit)
      registry) nodes).run next).result = .ok (Document.concatFrom next documents, final) := by
  induction nodes generalizing documents next with
  | nil =>
      obtain rfl : documents = [] := by simpa using alone.symm
      exact ⟨next, rfl⟩
  | cons node nodes ih =>
      cases documents with
      | nil => simp at alone
      | cons document documents =>
          simp only [List.map_cons, List.cons.injEq] at alone
          obtain ⟨first, rest⟩ := alone
          obtain ⟨final, ranRest⟩ := ih rest (next + document.elements.length)
          refine ⟨final, ?_⟩
          rw [Pass.result_concatMap_cons, result_expand_of_alone first next]
          show ((Pass.concatMap _ nodes).run (next + document.elements.length)).result >>= _ = _
          rw [ranRest]
          rfl

private theorem result_concatMap_of_alone_error {earlier later : List Node} {node : Node}
    {error : RenderError}
    (succeed : ∀ sibling ∈ earlier, ∃ document,
      ((Node.fragment [sibling]).render library limit registry).result = .ok document)
    (failed : ((Node.fragment [node]).render library limit registry).result = .error error)
    (next : Nat) :
    ((Pass.concatMap (expand library (effectiveLimit limit) (effectiveLimit limit) registry)
      (earlier ++ node :: later)).run next).result = .error error := by
  induction earlier generalizing next with
  | nil => exact Pass.result_concatMap_cons_of_error (result_expand_of_alone_error failed next)
  | cons sibling earlier ih =>
      obtain ⟨document, alone⟩ := succeed sibling (by simp)
      rw [List.cons_append, Pass.result_concatMap_cons, result_expand_of_alone alone next]
      show ((Pass.concatMap _ (earlier ++ node :: later)).run
        (next + document.elements.length)).result >>= _ = _
      rw [ih fun sibling member => succeed sibling (by simp [member])]
      rfl

private theorem alone_of_result_concatMap {nodes : List Node} {next : Nat} {reached : List (Tree Nat) × Nat}
    (ran : ((Pass.concatMap (expand library (effectiveLimit limit) (effectiveLimit limit) registry)
      nodes).run next).result = .ok reached) :
    ∀ node ∈ nodes, ∃ document,
      ((Node.fragment [node]).render library limit registry).result = .ok document := by
  induction nodes generalizing next reached with
  | nil => simp
  | cons node nodes ih =>
      cases alone : ((Node.fragment [node]).render library limit registry).result with
      | error error =>
          have failed : ((Pass.concatMap (expand library (effectiveLimit limit)
              (effectiveLimit limit) registry) (node :: nodes)).run next).result = .error error :=
            Pass.result_concatMap_cons_of_error (result_expand_of_alone_error alone next)
          rw [ran] at failed
          cases failed
      | ok document =>
          rw [Pass.result_concatMap_cons, result_expand_of_alone alone next] at ran
          cases rest : ((Pass.concatMap (expand library (effectiveLimit limit)
              (effectiveLimit limit) registry) nodes).run (next + document.elements.length)).result
            with
          | error error =>
              simp only [bind, Except.bind, rest] at ran
              cases ran
          | ok others =>
              intro sibling member
              rcases List.mem_cons.mp member with rfl | member
              · exact ⟨document, alone⟩
              · exact ih rest sibling member

private theorem exists_documents {render : Node → Except RenderError Document} {nodes : List Node}
    (succeed : ∀ node ∈ nodes, ∃ document, render node = .ok document) :
    ∃ documents : List Document, nodes.map render = documents.map .ok := by
  induction nodes with
  | nil => exact ⟨[], rfl⟩
  | cons node nodes ih =>
      obtain ⟨document, first⟩ := succeed node (by simp)
      obtain ⟨documents, rest⟩ := ih fun sibling member => succeed sibling (by simp [member])
      exact ⟨document :: documents, by simp [first, rest]⟩

/-- Siblings are independent. Together they render exactly when each renders alone, to the
documents of all of them one after the other; otherwise the first one that fails alone says how they
fail. -/
theorem render_siblings_independent (library : Library) (limit : Nat) (registry : Registry)
    (nodes : List Node) :
    ((∃ document, ((Node.fragment nodes).render library limit registry).result = .ok document) ↔
      ∀ node ∈ nodes, ∃ document,
        ((Node.fragment [node]).render library limit registry).result = .ok document) ∧
    (∀ documents : List Document,
      (nodes.map fun node => ((Node.fragment [node]).render library limit registry).result) =
        documents.map .ok →
      ((Node.fragment nodes).render library limit registry).result =
        .ok (Document.concat documents)) ∧
    (∀ earlier node later error, nodes = earlier ++ node :: later →
      (∀ sibling ∈ earlier, ∃ document,
        ((Node.fragment [sibling]).render library limit registry).result = .ok document) →
      ((Node.fragment [node]).render library limit registry).result = .error error →
      ((Node.fragment nodes).render library limit registry).result = .error error) := by
  refine ⟨⟨?_, ?_⟩, ?_, ?_⟩
  · rintro ⟨document, rendered⟩
    rw [render_fragment_result] at rendered
    cases ran : ((Pass.concatMap (expand library (effectiveLimit limit) (effectiveLimit limit)
        registry) nodes).run 0).result with
    | error error =>
        rw [ran] at rendered
        cases rendered
    | ok reached => exact alone_of_result_concatMap ran
  · intro succeed
    obtain ⟨documents, alone⟩ := exists_documents succeed
    obtain ⟨final, ran⟩ := result_concatMap_of_alone alone 0
    exact ⟨Document.concat documents, by rw [render_fragment_result, ran]; rfl⟩
  · intro documents alone
    obtain ⟨final, ran⟩ := result_concatMap_of_alone alone 0
    rw [render_fragment_result, ran]
    rfl
  · rintro earlier node later error rfl succeed failed
    rw [render_fragment_result, result_concatMap_of_alone_error succeed failed 0]
    rfl

def boldItalics : Node :=
  .element (.named ⟨"b"⟩) ∅ [.host "i" ∅ [] none] none

def overriddenAndPlain : List Node :=
  [.provider (.map (Registry.empty.insert ⟨"b"⟩ (.custom 0))) [boldItalics], boldItalics]

theorem render_siblings_overriddenAndPlain :
    (overriddenAndPlain.map fun node =>
        ((Node.fragment [node]).render .doubling 4 ∅).result) =
      List.map Except.ok
        [[.element 0 "i" ∅ [], .element 1 "i" ∅ []], [.element 0 "b" ∅ [.element 1 "i" ∅ []]]] ∧
      ((Node.fragment overriddenAndPlain).render .doubling 4 ∅).result =
        .ok (Document.concat
          [[.element 0 "i" ∅ [], .element 1 "i" ∅ []],
            [.element 0 "b" ∅ [.element 1 "i" ∅ []]]]) := by
  have alone : (overriddenAndPlain.map fun node =>
      ((Node.fragment [node]).render .doubling 4 ∅).result) = List.map Except.ok
        [[.element 0 "i" ∅ [], .element 1 "i" ∅ []],
          [.element 0 "b" ∅ [.element 1 "i" ∅ []]]] := rfl
  exact ⟨alone, (render_siblings_independent .doubling 4 ∅ overriddenAndPlain).2.1 _ alone⟩

end Node
end Quire
