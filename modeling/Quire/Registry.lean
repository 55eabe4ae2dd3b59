import Quire.Component

set_option autoImplicit false

/-!
Registries bind names to components, each name at most once. The order of the bindings carries no
meaning: whatever shows a registry lists its names in order.
-/

namespace Quire

structure Registry where
  bindings : List (Name × Component)
  distinct : (bindings.map Prod.fst).Nodup

namespace Registry

def empty : Registry := ⟨[], List.nodup_nil⟩

instance : EmptyCollection Registry := ⟨empty⟩
instance : Inhabited Registry := ⟨empty⟩

def find? (registry : Registry) (name : Name) : Option Component :=
  (registry.bindings.find? fun binding => binding.1 == name).map Prod.snd

def contains (registry : Registry) (name : Name) : Bool :=
  (registry.find? name).isSome

def size (registry : Registry) : Nat :=
  registry.bindings.length

def isEmpty (registry : Registry) : Bool :=
  registry.bindings.isEmpty

def filter (registry : Registry) (keep : Name → Bool) : Registry where
  bindings := registry.bindings.filter fun binding => keep binding.1
  distinct := registry.distinct.sublist (List.filter_sublist.map Prod.fst)

def insert (registry : Registry) (name : Name) (component : Component) : Registry where
  bindings := (name, component) :: (registry.filter fun other => other != name).bindings
  distinct := by
    have kept := (registry.filter fun other => other != name).distinct
    refine List.nodup_cons.mpr ⟨?_, kept⟩
    simp [filter]

/-- All bindings of both registries; where both bind a name, `overrides` wins. -/
def merged (base overrides : Registry) : Registry where
  bindings := overrides.bindings ++ (base.filter fun name => !overrides.contains name).bindings
  distinct := by
    have kept := (base.filter fun name => !overrides.contains name).distinct
    rw [List.map_append]
    refine List.nodup_append.mpr ⟨overrides.distinct, kept, ?_⟩
    intro name bound other free same
    subst same
    obtain ⟨binding, member, rfl⟩ := List.mem_map.mp bound
    obtain ⟨binding', member', same⟩ := List.mem_map.mp free
    have absent := (List.mem_filter.mp member').2
    simp only [same, contains, find?, Option.isSome_map, Bool.not_eq_true',
      List.find?_isSome, Bool.eq_false_iff, ne_eq] at absent
    exact absent ⟨binding, member, by simp⟩

def ofList (bindings : List (Name × Component)) : Registry :=
  bindings.foldl (fun registry binding => registry.insert binding.1 binding.2) empty

def sorted (registry : Registry) : List (Name × Component) :=
  registry.bindings.mergeSort fun left right => left.1.ordered right.1

protected def beq (left right : Registry) : Bool :=
  left.size == right.size &&
    left.bindings.all fun binding => right.find? binding.1 == some binding.2

instance : BEq Registry := ⟨Registry.beq⟩

end Registry
end Quire
