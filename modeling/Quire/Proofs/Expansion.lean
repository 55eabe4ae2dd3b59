import Quire.Render

set_option autoImplicit false

/-!
Laws of expansions and passes, and successful expansion as a relation of its own.

`Expands` says what a successful pass over a list of nodes did: the steps it made, the trees it
left, and the id it handed on. It leaves out the limit that an exhausted budget would report, since
no successful pass depends on it.
-/

namespace Quire

attribute [ext] Expansion

namespace Expansion

variable {α β : Type}

theorem pure_eq (value : α) : (pure value : Expansion α) = ⟨[], .ok value⟩ := rfl

@[simp] theorem mk_ok_bind (steps : List Step) (value : α) (next : α → Expansion β) :
    (⟨steps, .ok value⟩ : Expansion α) >>= next =
      ⟨steps ++ (next value).steps, (next value).result⟩ := rfl

@[simp] theorem record_bind (steps : List Step) (next : Unit → Expansion β) :
    record steps >>= next = ⟨steps ++ (next ()).steps, (next ()).result⟩ := rfl

theorem ofResult_eq_ok_iff {result : Except RenderError α} {steps : List Step} {value : α} :
    ofResult result = ⟨steps, .ok value⟩ ↔ steps = [] ∧ result = .ok value := by
  rw [ofResult, Expansion.mk.injEq, eq_comm (a := [])]

theorem bind_of_ok {first : Expansion α} {next : α → Expansion β} {value : α}
    (reached : first.result = .ok value) :
    first >>= next = ⟨first.steps ++ (next value).steps, (next value).result⟩ := by
  simp [bind, Expansion.bind, reached]

theorem bind_of_error {first : Expansion α} {next : α → Expansion β} {error : RenderError}
    (failed : first.result = .error error) :
    first >>= next = ⟨first.steps, .error error⟩ := by
  simp [bind, Expansion.bind, failed]

theorem result_bind (first : Expansion α) (next : α → Expansion β) :
    (first >>= next).result = first.result >>= fun value => (next value).result := by
  cases reached : first.result with
  | error error => rw [bind_of_error reached]; rfl
  | ok value => rw [bind_of_ok reached]; rfl

theorem bind_eq_ok_iff {first : Expansion α} {next : α → Expansion β} {steps : List Step}
    {value : β} :
    first >>= next = ⟨steps, .ok value⟩ ↔
      ∃ made reached followed, first = ⟨made, .ok reached⟩ ∧
        next reached = ⟨followed, .ok value⟩ ∧ steps = made ++ followed := by
  obtain ⟨made, result⟩ := first
  cases result with
  | error error =>
      rw [bind_of_error rfl]
      simp
  | ok reached =>
      rw [bind_of_ok rfl]
      constructor
      · intro same
        obtain ⟨rfl, succeeded⟩ := Expansion.mk.injEq .. ▸ same
        exact ⟨made, reached, (next reached).steps, rfl, Expansion.ext rfl succeeded, rfl⟩
      · rintro ⟨_, _, followed, ⟨rfl, rfl⟩, succeeded, rfl⟩
        rw [succeeded]

protected theorem id_map (first : Expansion α) : id <$> first = first := by
  cases reached : first.result with
  | error error => exact (bind_of_error reached).trans (Expansion.ext rfl reached.symm)
  | ok value =>
      refine (bind_of_ok reached).trans (Expansion.ext ?_ reached.symm)
      exact List.append_nil first.steps

protected theorem pure_bind (value : α) (next : α → Expansion β) :
    pure value >>= next = next value :=
  (bind_of_ok rfl).trans (Expansion.ext (List.nil_append _) rfl)

protected theorem bind_assoc {γ : Type} (first : Expansion α) (second : α → Expansion β)
    (third : β → Expansion γ) :
    first >>= second >>= third = first >>= fun value => second value >>= third := by
  cases reached : first.result with
  | error error => rw [bind_of_error reached, bind_of_error reached, bind_of_error rfl]
  | ok value =>
      rw [bind_of_ok reached, bind_of_ok reached]
      cases reached' : (second value).result with
      | error error => rw [bind_of_error rfl, bind_of_error reached']
      | ok value' =>
          rw [bind_of_ok rfl, bind_of_ok reached']
          exact Expansion.ext (List.append_assoc ..) rfl

instance : LawfulMonad Expansion :=
  .mk' Expansion Expansion.id_map Expansion.pure_bind Expansion.bind_assoc

end Expansion

namespace Pass

variable {α β : Type}

theorem run_concatMap_cons (expand : β → Pass (List α)) (item : β) (items : List β) (next : Nat) :
    (concatMap expand (item :: items)).run next =
      (expand item).run next >>= fun first =>
        (concatMap expand items).run first.2 >>= fun rest =>
          pure (first.1 ++ rest.1, rest.2) := rfl

theorem result_concatMap_cons (expand : β → Pass (List α)) (item : β) (items : List β)
    (next : Nat) :
    ((concatMap expand (item :: items)).run next).result =
      ((expand item).run next).result >>= fun first =>
        ((concatMap expand items).run first.2).result >>= fun rest =>
          .ok (first.1 ++ rest.1, rest.2) := by
  simp only [run_concatMap_cons, Expansion.result_bind]
  rfl

theorem result_concatMap_cons_of_error {expand : β → Pass (List α)} {item : β} {items : List β}
    {next : Nat} {error : RenderError} (failed : ((expand item).run next).result = .error error) :
    ((concatMap expand (item :: items)).run next).result = .error error := by
  rw [result_concatMap_cons, failed]
  rfl

theorem run_concatMap_cons_eq_ok_iff {expand : β → Pass (List α)} {item : β} {items : List β}
    {next final : Nat} {steps : List Step} {values : List α} :
    (concatMap expand (item :: items)).run next = ⟨steps, .ok (values, final)⟩ ↔
      ∃ made first middle followed rest,
        (expand item).run next = ⟨made, .ok (first, middle)⟩ ∧
        (concatMap expand items).run middle = ⟨followed, .ok (rest, final)⟩ ∧
        steps = made ++ followed ∧ values = first ++ rest := by
  simp only [run_concatMap_cons, Expansion.bind_eq_ok_iff]
  constructor
  · rintro ⟨made, ⟨first, middle⟩, _, ran, ⟨followed, ⟨rest, _⟩, _, ranRest, ended, rfl⟩, rfl⟩
    cases ended
    exact ⟨made, first, middle, followed, rest, ran, ranRest, by simp, rfl⟩
  · rintro ⟨made, first, middle, followed, rest, ran, ranRest, rfl, rfl⟩
    refine ⟨made, (first, middle), followed, ran, ?_, rfl⟩
    exact ⟨followed, (rest, final), [], ranRest, rfl, by simp⟩

@[simp] theorem concatMap_singleton (expand : β → Pass (List α)) (item : β) :
    concatMap expand [item] = expand item := by
  simp [concatMap]

end Pass

/-- A successful pass over nodes. With a budget of zero only the empty list succeeds. -/
inductive Expands (library : Library) :
    Nat → Registry → Nat → List Node → List Step → List (Tree Nat) → Nat → Prop where
  | nil {budget registry next} : Expands library budget registry next [] [] [] next
  | empty {budget registry next rest steps trees final} :
      Expands library (budget + 1) registry next rest steps trees final →
      Expands library (budget + 1) registry next (.empty :: rest) steps trees final
  | text {budget registry next content rest steps trees final} :
      Expands library (budget + 1) registry next rest steps trees final →
      Expands library (budget + 1) registry next (.text content :: rest) steps
        (.text content :: trees) final
  | number {budget registry next value rest steps trees final} :
      Expands library (budget + 1) registry next rest steps trees final →
      Expands library (budget + 1) registry next (.number value :: rest) steps
        (.text value.text :: trees) final
  | fragment {budget registry next children made inner middle rest steps trees final} :
      Expands library budget registry next children made inner middle →
      Expands library (budget + 1) registry middle rest steps trees final →
      Expands library (budget + 1) registry next (.fragment children :: rest) (made ++ steps)
        (inner ++ trees) final
  | provider {budget registry next overrides children made inner middle rest steps trees final} :
      Expands library budget (overrides.view registry) next children made inner middle →
      Expands library (budget + 1) registry middle rest steps trees final →
      Expands library (budget + 1) registry next (.provider overrides children :: rest)
        (overrides.steps ++ made ++ steps) (inner ++ trees) final
  | element {budget registry next reference props children handle called rendered made inner middle
      rest steps trees final} :
      Element.dispatch library registry ⟨reference, props, children, handle⟩ =
        ⟨called, .ok rendered⟩ →
      Expands library budget registry next [rendered] made inner middle →
      Expands library (budget + 1) registry middle rest steps trees final →
      Expands library (budget + 1) registry next
        (.element reference props children handle :: rest) (called ++ made ++ steps)
        (inner ++ trees) final
  | host {budget registry next tag attributes children handle made inner middle rest steps trees
      final} :
      Tag.isValid tag = true →
      Expands library budget registry (next + 1) children made inner middle →
      Expands library (budget + 1) registry middle rest steps trees final →
      Expands library (budget + 1) registry next (.host tag attributes children handle :: rest)
        (.materialized tag next handle :: made ++ steps)
        (.element next tag attributes inner :: trees) final

namespace Node

variable {library : Library} {limit budget next : Nat} {registry : Registry}

theorem run_expand_provider {overrides : Overrides} {children : List Node} :
    ((Node.provider overrides children).expand library limit (budget + 1) registry).run next =
      Expansion.record overrides.steps >>= fun _ =>
        (Pass.concatMap (expand library limit budget (overrides.view registry)) children).run
          next := by
  simp [expand]

theorem run_expand_element {reference : Reference} {props : Props} {children : List Node}
    {handle : Option Handle} :
    ((Node.element reference props children handle).expand library limit (budget + 1)
        registry).run next =
      Element.dispatch library registry ⟨reference, props, children, handle⟩ >>= fun rendered =>
        (rendered.expand library limit budget registry).run next := by
  simp [expand]

theorem run_expand_host {tag : String} {attributes : Props} {children : List Node}
    {handle : Option Handle} (valid : Tag.isValid tag = true) :
    ((Node.host tag attributes children handle).expand library limit (budget + 1)
        registry).run next =
      Expansion.record [.materialized tag next handle] >>= fun _ =>
        (Pass.concatMap (expand library limit budget registry) children).run (next + 1) >>=
          fun inner => pure ([.element next tag attributes inner.1], inner.2) := by
  simp [expand, valid, Pass.takeId]

theorem run_expand_host_of_invalid {tag : String} {attributes : Props} {children : List Node}
    {handle : Option Handle} (invalid : Tag.isValid tag = false) :
    ((Node.host tag attributes children handle).expand library limit (budget + 1)
        registry).run next = ⟨[], .error (.invalidTag tag)⟩ := by
  simp [expand, invalid]
  rfl

end Node

namespace Expands

variable {library : Library} {budget next final : Nat} {registry : Registry} {nodes : List Node}
  {steps : List Step} {trees : List (Tree Nat)}

/-- Whatever the relation says of a pass, the pass does, whichever limit it would report. -/
theorem run (expansion : Expands library budget registry next nodes steps trees final)
    (limit : Nat) :
    (Pass.concatMap (Node.expand library limit budget registry) nodes).run next =
      ⟨steps, .ok (trees, final)⟩ := by
  induction expansion with
  | nil => rfl
  | empty _ ih => exact Pass.run_concatMap_cons_eq_ok_iff.mpr ⟨[], [], _, _, _, rfl, ih, rfl, rfl⟩
  | text _ ih => exact Pass.run_concatMap_cons_eq_ok_iff.mpr ⟨[], [_], _, _, _, rfl, ih, rfl, rfl⟩
  | number _ ih =>
      exact Pass.run_concatMap_cons_eq_ok_iff.mpr ⟨[], [_], _, _, _, rfl, ih, rfl, rfl⟩
  | fragment _ _ childrenIH restIH =>
      exact Pass.run_concatMap_cons_eq_ok_iff.mpr ⟨_, _, _, _, _, childrenIH, restIH, rfl, rfl⟩
  | provider _ _ childrenIH restIH =>
      refine Pass.run_concatMap_cons_eq_ok_iff.mpr ⟨_, _, _, _, _, ?_, restIH, rfl, rfl⟩
      rw [Node.run_expand_provider, childrenIH, Expansion.record_bind]
  | element dispatched _ _ renderedIH restIH =>
      refine Pass.run_concatMap_cons_eq_ok_iff.mpr ⟨_, _, _, _, _, ?_, restIH, rfl, rfl⟩
      rw [Pass.concatMap_singleton] at renderedIH
      rw [Node.run_expand_element, dispatched, Expansion.mk_ok_bind, renderedIH]
  | host valid _ _ childrenIH restIH =>
      refine Pass.run_concatMap_cons_eq_ok_iff.mpr
        ⟨.materialized _ _ _ :: _, [_], _, _, _, ?_, restIH, rfl, rfl⟩
      rw [Node.run_expand_host valid, childrenIH]
      simp [Expansion.pure_eq]

theorem of_run {limit : Nat}
    (ran : (Pass.concatMap (Node.expand library limit budget registry) nodes).run next =
      ⟨steps, .ok (trees, final)⟩) :
    Expands library budget registry next nodes steps trees final := by
  induction budget generalizing registry next nodes steps trees final with
  | zero =>
      cases nodes with
      | nil =>
          cases ran
          exact .nil
      | cons node rest =>
          obtain ⟨_, _, _, _, _, exhausted, -⟩ := Pass.run_concatMap_cons_eq_ok_iff.mp ran
          cases exhausted
  | succ budget budgetIH =>
      induction nodes generalizing next steps trees final with
      | nil =>
          cases ran
          exact .nil
      | cons node rest restIH =>
          obtain ⟨made, first, middle, followed, others, ranNode, ranRest, rfl, rfl⟩ :=
            Pass.run_concatMap_cons_eq_ok_iff.mp ran
          have restExpands := restIH ranRest
          cases node with
          | empty =>
              cases ranNode
              exact .empty restExpands
          | text content =>
              cases ranNode
              exact .text restExpands
          | number value =>
              cases ranNode
              exact .number restExpands
          | fragment children => exact .fragment (budgetIH ranNode) restExpands
          | provider overrides children =>
              rw [Node.run_expand_provider, Expansion.bind_eq_ok_iff] at ranNode
              obtain ⟨_, _, _, recorded, ranChildren, rfl⟩ := ranNode
              cases recorded
              exact .provider (budgetIH ranChildren) restExpands
          | element reference props children handle =>
              rw [Node.run_expand_element, Expansion.bind_eq_ok_iff] at ranNode
              obtain ⟨_, rendered, _, dispatched, ranRendered, rfl⟩ := ranNode
              rw [← Pass.concatMap_singleton (Node.expand library limit budget registry)]
                at ranRendered
              exact .element dispatched (budgetIH ranRendered) restExpands
          | host tag attributes children handle =>
              cases valid : Tag.isValid tag with
              | false =>
                  rw [Node.run_expand_host_of_invalid valid] at ranNode
                  cases ranNode
              | true =>
                  rw [Node.run_expand_host valid, Expansion.bind_eq_ok_iff] at ranNode
                  obtain ⟨_, _, _, recorded, ranInner, rfl⟩ := ranNode
                  obtain ⟨inside, ⟨inner, middle'⟩, _, ranChildren, wrapped, rfl⟩ :=
                    Expansion.bind_eq_ok_iff.mp ranInner
                  cases recorded
                  cases wrapped
                  simpa using Expands.host valid (budgetIH ranChildren) restExpands

theorem iff_run (limit : Nat) :
    Expands library budget registry next nodes steps trees final ↔
      (Pass.concatMap (Node.expand library limit budget registry) nodes).run next =
        ⟨steps, .ok (trees, final)⟩ :=
  ⟨fun expansion => expansion.run limit, of_run⟩

theorem singleton_iff_run (limit : Nat) {node : Node} :
    Expands library budget registry next [node] steps trees final ↔
      (node.expand library limit budget registry).run next = ⟨steps, .ok (trees, final)⟩ := by
  rw [← Pass.concatMap_singleton (Node.expand library limit budget registry)]
  exact iff_run limit

theorem cons {node : Node} {middle : Nat} {made : List Step} {inner : List (Tree Nat)}
    (first : Expands library budget registry next [node] made inner middle)
    (rest : Expands library budget registry middle nodes steps trees final) :
    Expands library budget registry next (node :: nodes) (made ++ steps) (inner ++ trees) final := by
  have ranFirst := (singleton_iff_run 0).mp first
  have ranRest := (iff_run 0).mp rest
  exact (iff_run 0).mpr
    (Pass.run_concatMap_cons_eq_ok_iff.mpr ⟨_, _, _, _, _, ranFirst, ranRest, rfl, rfl⟩)

theorem uncons {node : Node}
    (expansion : Expands library budget registry next (node :: nodes) steps trees final) :
    ∃ made inner middle followed others,
      Expands library budget registry next [node] made inner middle ∧
      Expands library budget registry middle nodes followed others final ∧
      steps = made ++ followed ∧ trees = inner ++ others := by
  obtain ⟨made, inner, middle, followed, others, ranFirst, ranRest, joined⟩ :=
    Pass.run_concatMap_cons_eq_ok_iff.mp ((iff_run 0).mp expansion)
  exact ⟨made, inner, middle, followed, others, (singleton_iff_run 0).mpr ranFirst,
    (iff_run 0).mpr ranRest, joined⟩

theorem append {middle : Nat} {others : List Node} {made : List Step} {inner : List (Tree Nat)}
    (first : Expands library budget registry next nodes made inner middle)
    (second : Expands library budget registry middle others steps trees final) :
    Expands library budget registry next (nodes ++ others) (made ++ steps) (inner ++ trees)
      final := by
  induction nodes generalizing next made inner with
  | nil =>
      cases first
      exact second
  | cons node nodes ih =>
      obtain ⟨_, _, _, _, _, here, later, rfl, rfl⟩ := first.uncons
      rw [List.append_assoc, List.append_assoc]
      exact here.cons (ih later)

theorem exists_succ_budget {node : Node}
    (expansion : Expands library budget registry next [node] steps trees final) :
    ∃ smaller, budget = smaller + 1 := by
  cases budget with
  | zero => cases expansion
  | succ smaller => exact ⟨smaller, rfl⟩

theorem fragment_iff {children : List Node} :
    Expands library (budget + 1) registry next [.fragment children] steps trees final ↔
      Expands library budget registry next children steps trees final := by
  constructor
  · intro expansion
    cases expansion with
    | fragment inner rest =>
        cases rest
        simpa using inner
  · intro inner
    simpa using Expands.fragment inner .nil

theorem provider_iff {overrides : Overrides} {children : List Node} :
    Expands library (budget + 1) registry next [.provider overrides children] steps trees final ↔
      ∃ made, Expands library budget (overrides.view registry) next children made trees final ∧
        steps = overrides.steps ++ made := by
  constructor
  · intro expansion
    cases expansion with
    | provider inner rest =>
        cases rest
        exact ⟨_, by simpa using inner, by simp⟩
  · rintro ⟨made, inner, rfl⟩
    simpa using Expands.provider inner .nil

theorem element_iff {reference : Reference} {props : Props} {children : List Node}
    {handle : Option Handle} :
    Expands library (budget + 1) registry next [.element reference props children handle] steps trees
        final ↔
      ∃ called rendered made,
        Element.dispatch library registry ⟨reference, props, children, handle⟩ =
          ⟨called, .ok rendered⟩ ∧
        Expands library budget registry next [rendered] made trees final ∧
        steps = called ++ made := by
  constructor
  · intro expansion
    cases expansion with
    | element dispatched inner rest =>
        cases rest
        exact ⟨_, _, _, dispatched, by simpa using inner, by simp⟩
  · rintro ⟨called, rendered, made, dispatched, inner, rfl⟩
    simpa using Expands.element dispatched inner .nil

theorem host_iff {tag : String} {attributes : Props} {children : List Node}
    {handle : Option Handle} :
    Expands library (budget + 1) registry next [.host tag attributes children handle] steps trees
        final ↔
      ∃ made inner, Tag.isValid tag = true ∧
        Expands library budget registry (next + 1) children made inner final ∧
        steps = .materialized tag next handle :: made ∧
        trees = [.element next tag attributes inner] := by
  constructor
  · intro expansion
    cases expansion with
    | host valid inner rest =>
        cases rest
        exact ⟨_, _, valid, inner, by simp, rfl⟩
  · rintro ⟨made, inner, valid, expansion, rfl, rfl⟩
    have whole : Expands library (budget + 1) registry next [.host tag attributes children handle]
        (.materialized tag next handle :: made ++ []) [.element next tag attributes inner] final :=
      .host valid expansion .nil
    rwa [List.append_nil] at whole

end Expands

namespace Node

variable {library : Library} {limit : Nat} {registry : Registry} {node : Node}
  {document : Document}

theorem result_render (library : Library) (limit : Nat) (registry : Registry) (node : Node) :
    (node.render library limit registry).result =
      ((Pass.concatMap (expand library (effectiveLimit limit) (effectiveLimit limit + 1) registry)
        [node]).run 0).result.map Prod.fst := by
  rw [Pass.concatMap_singleton]
  simp only [render]
  cases ((node.expand library (effectiveLimit limit) (effectiveLimit limit + 1) registry).run
      0).result with
  | error error => rfl
  | ok reached => rfl

theorem steps_render (library : Library) (limit : Nat) (registry : Registry) (node : Node) :
    (node.render library limit registry).steps =
      ((Pass.concatMap (expand library (effectiveLimit limit) (effectiveLimit limit + 1) registry)
        [node]).run 0).steps := by
  rw [Pass.concatMap_singleton]
  simp only [render]
  split <;> rfl

theorem render_eq_error_iff {error : RenderError} :
    (node.render library limit registry).result = .error error ↔
      ((Pass.concatMap (expand library (effectiveLimit limit) (effectiveLimit limit + 1) registry)
        [node]).run 0).result = .error error := by
  rw [result_render]
  generalize ((Pass.concatMap (expand library (effectiveLimit limit) (effectiveLimit limit + 1)
    registry) [node]).run 0).result = reached
  cases reached with
  | error other => simp [Except.map]
  | ok reached => simp [Except.map]

/-- A rendering that succeeds is a pass over its tree that starts with id 0. -/
theorem expands_of_render (rendered : (node.render library limit registry).result = .ok document) :
    ∃ steps final,
      Expands library (effectiveLimit limit + 1) registry 0 [node] steps document final := by
  rw [result_render] at rendered
  cases ran : (Pass.concatMap (expand library (effectiveLimit limit) (effectiveLimit limit + 1)
      registry) [node]).run 0 with
  | mk steps result =>
      rw [ran] at rendered
      cases result with
      | error error => cases rendered
      | ok reached =>
          obtain ⟨trees, final⟩ := reached
          cases rendered
          exact ⟨steps, final, .of_run ran⟩

theorem render_of_expands {steps : List Step} {final : Nat}
    (expansion : Expands library (effectiveLimit limit + 1) registry 0 [node] steps document
      final) :
    (node.render library limit registry).result = .ok document ∧
      (node.render library limit registry).steps = steps := by
  rw [result_render, steps_render, expansion.run]
  exact ⟨rfl, rfl⟩

end Node
end Quire
