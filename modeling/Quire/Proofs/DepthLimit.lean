import Quire.Proofs.Visits

set_option autoImplicit false

/-!
The nesting limit only ever cuts a rendering off.

`Overruns` says that a pass gets to a place where its budget leaves nothing. A pass that overruns
fails and reports the limit; any other does the same under every larger budget, step by step, also
when it fails for a reason of its own.
-/

namespace Quire

/-- A pass over nodes gets to one that its budget leaves nothing for. -/
def Overruns (library : Library) (budget : Nat) (registry : Registry) (next : Nat)
    (nodes : List Node) : Prop :=
  ∃ place, Visits library budget registry next nodes place ∧ place.budget = 0

namespace Overruns

variable {library : Library} {budget next : Nat} {registry : Registry} {node : Node}
  {nodes : List Node}

theorem exhausted : Overruns library 0 registry next (node :: nodes) :=
  ⟨_, .here, rfl⟩

theorem opened {start : Nat} {inside : Registry} {below : List Node}
    (opens : node.Opens library registry next inside start below)
    (overrun : Overruns library budget inside start below) :
    Overruns library (budget + 1) registry next (node :: nodes) := by
  obtain ⟨place, visit, spent⟩ := overrun
  exact ⟨place, .opened opens visit, spent⟩

theorem later {middle : Nat} {steps : List Step} {trees : List (Tree Nat)}
    (expansion : Expands library budget registry next [node] steps trees middle)
    (overrun : Overruns library budget registry middle nodes) :
    Overruns library budget registry next (node :: nodes) := by
  obtain ⟨place, visit, spent⟩ := overrun
  exact ⟨place, .later expansion visit, spent⟩

theorem cons (overrun : Overruns library budget registry next [node]) :
    Overruns library budget registry next (node :: nodes) := by
  obtain ⟨place, visit, spent⟩ := overrun
  exact ⟨place, visit.cons, spent⟩

private theorem result_eq (overrun : Overruns library budget registry next nodes) (limit : Nat) :
    ((Pass.concatMap (Node.expand library limit budget registry) nodes).run next).result =
      .error (.depthExceeded limit) := by
  obtain ⟨⟨left, view, start, node⟩, visit, spent⟩ := overrun
  obtain rfl : left = 0 := spent
  exact visit.result_eq_error .exhausted

end Overruns

private theorem Node.run_expand_congr {library : Library} {limit limit' budget budget' next : Nat}
    {registry : Registry} {node : Node}
    (below : ∀ {inside start nodes}, node.Opens library registry next inside start nodes →
      (Pass.concatMap (expand library limit' budget' inside) nodes).run start =
        (Pass.concatMap (expand library limit budget inside) nodes).run start) :
    (node.expand library limit' (budget' + 1) registry).run next =
      (node.expand library limit (budget + 1) registry).run next := by
  cases node with
  | empty | text content | number value => rfl
  | fragment children => exact below .fragment
  | provider overrides children => rw [run_expand_provider, run_expand_provider, below .provider]
  | element reference props children handle =>
      rw [run_expand_element, run_expand_element]
      cases dispatched : Element.dispatch library registry ⟨reference, props, children, handle⟩ with
      | mk called result =>
          cases result with
          | error error => rfl
          | ok rendered =>
              have same := below (.element dispatched)
              rw [Pass.concatMap_singleton, Pass.concatMap_singleton] at same
              rw [Expansion.mk_ok_bind, Expansion.mk_ok_bind, same]
  | host tag attributes children handle =>
      cases valid : Tag.isValid tag with
      | false => rw [run_expand_host_of_invalid valid, run_expand_host_of_invalid valid]
      | true => rw [run_expand_host valid, run_expand_host valid, below (.host valid)]

namespace Pass

variable {library : Library} {budget next : Nat} {registry : Registry} {nodes : List Node}

/-- A pass that does not overrun is the same under every larger budget, failures included. -/
theorem run_eq_of_not_overruns {limit limit' budget' : Nat}
    (settled : ¬ Overruns library budget registry next nodes) (enough : budget ≤ budget') :
    (concatMap (Node.expand library limit' budget' registry) nodes).run next =
      (concatMap (Node.expand library limit budget registry) nodes).run next := by
  induction budget generalizing registry next nodes budget' with
  | zero =>
      cases nodes with
      | nil => rfl
      | cons node rest => exact False.elim (settled .exhausted)
  | succ budget budgetIH =>
      obtain ⟨budget', rfl⟩ : ∃ smaller, budget' = smaller + 1 := ⟨budget' - 1, by omega⟩
      induction nodes generalizing next with
      | nil => rfl
      | cons node rest restIH =>
          have head : (node.expand library limit' (budget' + 1) registry).run next =
              (node.expand library limit (budget + 1) registry).run next := by
            apply Node.run_expand_congr
            intro inside start nodes opens
            exact budgetIH (fun overrun => settled (.opened opens overrun)) (by omega)
          rw [run_concatMap_cons, run_concatMap_cons, head]
          cases ran : (node.expand library limit (budget + 1) registry).run next with
          | mk steps result =>
              cases result with
              | error error => rfl
              | ok reached =>
                  have expansion := (Expands.singleton_iff_run limit).mpr ran
                  have same := restIH fun overrun => settled (.later expansion overrun)
                  rw [Expansion.mk_ok_bind, Expansion.mk_ok_bind, same]

end Pass

theorem Expands.of_le {library : Library} {budget budget' next final : Nat} {registry : Registry}
    {nodes : List Node} {steps : List Step} {trees : List (Tree Nat)}
    (expansion : Expands library budget registry next nodes steps trees final)
    (enough : budget ≤ budget') : Expands library budget' registry next nodes steps trees final := by
  have ran := expansion.run 0
  have settled : ¬ Overruns library budget registry next nodes := by
    intro overrun
    have failed := overrun.result_eq 0
    rw [ran] at failed
    cases failed
  apply (Expands.iff_run 0).mpr
  rw [Pass.run_eq_of_not_overruns settled enough, ran]

def Library.looping : Library where
  configured _ := .fragment
  custom id := .custom "Loop" fun _ => .ok (.element (.direct (.custom id)) ∅ [] none)

namespace Node

variable {library : Library} {registry : Registry} {node : Node} {limit larger : Nat}

theorem render_of_overruns
    (overrun : Overruns library (effectiveLimit limit + 1) registry 0 [node]) :
    (node.render library limit registry).result =
      .error (.depthExceeded (effectiveLimit limit)) :=
  render_eq_error_iff.mpr (overrun.result_eq (effectiveLimit limit))

private theorem render_eq_of_not_overruns
    (settled : ¬ Overruns library (effectiveLimit limit + 1) registry 0 [node])
    (larger_limit : limit ≤ larger) :
    node.render library larger registry = node.render library limit registry := by
  have enough : effectiveLimit limit + 1 ≤ effectiveLimit larger + 1 := by
    simp only [effectiveLimit]
    omega
  have same :
      (node.expand library (effectiveLimit larger) (effectiveLimit larger + 1) registry).run 0 =
        (node.expand library (effectiveLimit limit) (effectiveLimit limit + 1) registry).run 0 := by
    simpa only [Pass.concatMap_singleton] using Pass.run_eq_of_not_overruns settled enough
  simp only [render, same]

/-- The limit only cuts off. A rendering that does not fail for want of depth is the same under
every larger limit, and leaves every handle the same; one that overruns its limit reports the limit
it worked with, and any other does not depend on it; and beyond the largest limit a renderer
accepts, the limit has no effect. -/
theorem render_limit_only_cuts_off (larger_limit : limit ≤ larger) :
    ((∀ reported, (node.render library limit registry).result ≠ .error (.depthExceeded reported)) →
      (node.render library larger registry).result = (node.render library limit registry).result ∧
      ∀ before, (node.render library larger registry).handles before =
        (node.render library limit registry).handles before) ∧
    (Overruns library (min limit 1024 + 1) registry 0 [node] →
      (node.render library limit registry).result = .error (.depthExceeded (min limit 1024))) ∧
    (¬ Overruns library (min limit 1024 + 1) registry 0 [node] →
      node.render library larger registry = node.render library limit registry) ∧
    (1024 ≤ limit → node.render library larger registry = node.render library limit registry) := by
  refine ⟨?_, render_of_overruns, fun settled => render_eq_of_not_overruns settled larger_limit, ?_⟩
  · intro other
    have settled : ¬ Overruns library (effectiveLimit limit + 1) registry 0 [node] :=
      fun overrun => other _ (render_of_overruns overrun)
    rw [render_eq_of_not_overruns settled larger_limit]
    exact ⟨rfl, fun before => rfl⟩
  · intro capped
    have same : effectiveLimit larger = effectiveLimit limit := by
      simp only [effectiveLimit, maximalLimit]
      omega
    simp only [render, same]

def selfReference : Node :=
  .element (.direct (.custom 0)) ∅ [] none

def boldParagraph : Node :=
  .host "p" ∅ [.element (.named ⟨"b"⟩) ∅ [] none] none

theorem render_limit_selfReference :
    2 ≤ 5 ∧ Overruns .looping (min 2 1024 + 1) ∅ 0 [selfReference] ∧
      (selfReference.render .looping 2 ∅).result = .error (.depthExceeded 2) ∧
      (boldParagraph.render .looping 5 ∅).result = (boldParagraph.render .looping 2 ∅).result := by
  have overrun : Overruns .looping (min 2 1024 + 1) ∅ 0 [selfReference] :=
    .opened (.element rfl) (.opened (.element rfl) (.opened (.element rfl) .exhausted))
  have inTime : ∀ reported,
      (boldParagraph.render .looping 2 ∅).result ≠ .error (.depthExceeded reported) := by
    intro reported failed
    cases failed
  have smaller : 2 ≤ 5 := by decide
  exact ⟨smaller, overrun, (render_limit_only_cuts_off smaller).2.1 overrun,
    ((render_limit_only_cuts_off smaller).1 inTime).1⟩

end Node
end Quire
