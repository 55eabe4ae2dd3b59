import Mathlib.Data.List.Nodup
import Quire.Node

set_option autoImplicit false

/-!
Laws of registries.

Merging is look-up in the overrides first, and with the empty registry it forms a monoid: also the
order in which the bindings are kept does not depend on how merges are grouped.
-/

namespace Quire

namespace Registry

def All (accept : Component → Prop) (registry : Registry) : Prop :=
  ∀ binding ∈ registry.bindings, accept binding.2

variable {accept : Component → Prop} {registry base overrides : Registry}

theorem All.empty : Registry.All accept ∅ := by
  intro binding member
  cases member

theorem All.imp {other : Component → Prop} (all : registry.All accept)
    (weaker : ∀ {component}, accept component → other component) : registry.All other :=
  fun binding member => weaker (all binding member)

theorem All.find? (all : registry.All accept) {name : Name} {component : Component}
    (found : registry.find? name = some component) : accept component := by
  obtain ⟨binding, first, rfl⟩ := Option.map_eq_some_iff.mp found
  exact all binding (List.mem_of_find?_eq_some first)

theorem All.merged (inner : overrides.All accept) (outer : base.All accept) :
    (base.merged overrides).All accept := by
  intro binding member
  rcases List.mem_append.mp member with added | kept
  · exact inner binding added
  · exact outer binding (List.mem_filter.mp kept).1

theorem All.insert (all : registry.All accept) {name : Name} {component : Component}
    (accepted : accept component) : (registry.insert name component).All accept := by
  intro binding member
  rcases List.mem_cons.mp member with rfl | kept
  · exact accepted
  · exact all binding (List.mem_filter.mp kept).1

theorem All.ofList {bindings : List (Name × Component)}
    (accepted : ∀ binding ∈ bindings, accept binding.2) :
    (Registry.ofList bindings).All accept := by
  suffices built : ∀ start : Registry, start.All accept →
      (bindings.foldl (fun registry binding => registry.insert binding.1 binding.2)
        start).All accept from built ∅ .empty
  induction bindings with
  | nil => exact fun start all => all
  | cons binding bindings ih =>
      intro start all
      obtain ⟨first, rest⟩ := List.forall_mem_cons.mp accepted
      exact ih rest _ (all.insert first)

theorem find?_merged (base overrides : Registry) (name : Name) :
    (base.merged overrides).find? name = (overrides.find? name).or (base.find? name) := by
  simp only [find?, merged, List.find?_append, Option.map_or, filter, List.find?_filter]
  cases bound : overrides.bindings.find? fun binding => binding.1 == name with
  | some binding => rfl
  | none =>
      have free : overrides.contains name = false := by simp [contains, find?, bound]
      refine congrArg (fun test => (base.bindings.find? test).map Prod.snd) (funext fun binding => ?_)
      by_cases named : binding.1 = name
      · simp [named, free]
      · simp [named]

theorem isSome_find?_merged {name : Name} (bound : (base.find? name).isSome) :
    ((base.merged overrides).find? name).isSome := by
  rw [find?_merged, Option.isSome_or, bound, Bool.or_true]

theorem contains_merged (base overrides : Registry) (name : Name) :
    (base.merged overrides).contains name = (overrides.contains name || base.contains name) := by
  rw [contains, find?_merged, Option.isSome_or, contains, contains]

theorem bindings_merged (base overrides : Registry) :
    (base.merged overrides).bindings =
      overrides.bindings ++ base.bindings.filter fun binding => !overrides.contains binding.1 := rfl

theorem ext_bindings (same : base.bindings = overrides.bindings) : base = overrides := by
  cases base
  cases overrides
  cases same
  rfl

theorem merged_of_isEmpty (base : Registry) (vacant : overrides.isEmpty = true) :
    base.merged overrides = base := by
  have none : overrides.bindings = [] := List.isEmpty_iff.mp vacant
  apply ext_bindings
  simp [bindings_merged, contains, find?, none]

@[simp] theorem empty_merged (overrides : Registry) : (∅ : Registry).merged overrides = overrides := by
  apply ext_bindings
  exact List.append_nil overrides.bindings

theorem merged_assoc (base inner overrides : Registry) :
    (base.merged inner).merged overrides = base.merged (inner.merged overrides) := by
  apply ext_bindings
  simp only [bindings_merged, List.filter_append, List.filter_filter, List.append_assoc]
  congr 2
  apply List.filter_congr
  intro binding _
  rw [contains_merged, Bool.not_or]

theorem find?_eq_some_iff {name : Name} {component : Component} :
    registry.find? name = some component ↔ (name, component) ∈ registry.bindings := by
  constructor
  · intro found
    obtain ⟨binding, first, rfl⟩ := Option.map_eq_some_iff.mp found
    have named := List.find?_some first
    obtain rfl : binding.1 = name := by simpa using named
    exact List.mem_of_find?_eq_some first
  · intro bound
    obtain ⟨binding, first⟩ : ∃ binding,
        registry.bindings.find? (fun binding => binding.1 == name) = some binding := by
      apply Option.isSome_iff_exists.mp
      exact List.find?_isSome.mpr ⟨(name, component), bound, by simp⟩
    have named : binding.1 = name := by simpa using List.find?_some first
    have same : binding = (name, component) :=
      List.inj_on_of_nodup_map registry.distinct (List.mem_of_find?_eq_some first) bound named
    rw [find?, first, same]
    rfl

theorem find?_insert (registry : Registry) (name other : Name) (component : Component) :
    (registry.insert name component).find? other =
      if name = other then some component else registry.find? other := by
  unfold find? insert filter
  rw [List.find?_cons]
  split
  · rename_i here
    rw [if_pos (eq_of_beq here)]
    rfl
  · rename_i elsewhere
    have different : name ≠ other := by simpa using elsewhere
    rw [if_neg different, List.find?_filter]
    refine congrArg (fun test => (registry.bindings.find? test).map Prod.snd) (funext fun binding => ?_)
    by_cases named : binding.1 = other
    · simp [named, different.symm]
    · simp [named]

theorem beq_self (registry : Registry) : (registry == registry) = true := by
  apply Bool.and_eq_true_iff.mpr
  refine ⟨beq_self_eq_true _, List.all_eq_true.mpr ?_⟩
  intro binding bound
  rw [find?_eq_some_iff.mpr bound]
  exact beq_self_eq_true _

end Registry

/-- Overrides that are empty leave the view alone, which is what merging them would do. -/
theorem Overrides.view_map (registry outer : Registry) :
    (Overrides.map registry).view outer = outer.merged registry := by
  cases vacant : registry.isEmpty with
  | true => simp [view, view?, vacant, Registry.merged_of_isEmpty]
  | false => simp [view, view?, vacant]

end Quire
