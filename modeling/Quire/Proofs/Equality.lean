import Mathlib.Data.List.Perm.Subperm
import Quire.Proofs.Merging
import Quire.Proofs.Registries

set_option autoImplicit false

/-!
Equality of values, bags and registries.

Bags and registries are compared in one direction only, together with their sizes. Because keys are
distinct, a bag whose entries are all found in another one of the same size leaves none of the keys of
the other out, and so the comparison does not depend on its direction. Values are compared through
lists and maps; all that keeps a value from being equal to itself is a `nan` inside it.
-/

namespace Quire

namespace Registry

private theorem mem_names_iff {registry : Registry} {name : Name} :
    name ∈ registry.bindings.map Prod.fst ↔ ∃ component, registry.find? name = some component := by
  simp [find?_eq_some_iff]

/-- Registries are equal exactly if every name is bound to the same component in both, or in none. -/
theorem beq_iff {left right : Registry} :
    (left == right) = true ↔ ∀ name, left.find? name = right.find? name := by
  constructor
  · intro equal
    obtain ⟨sized, found⟩ := Bool.and_eq_true_iff.mp equal
    have held : ∀ name component, left.find? name = some component →
        right.find? name = some component := by
      intro name component binding
      exact eq_of_beq (List.all_eq_true.mp found _ (find?_eq_some_iff.mp binding))
    have included : left.bindings.map Prod.fst ⊆ right.bindings.map Prod.fst := by
      intro name member
      obtain ⟨component, binding⟩ := mem_names_iff.mp member
      exact mem_names_iff.mpr ⟨component, held name component binding⟩
    have same : (left.bindings.map Prod.fst).Perm (right.bindings.map Prod.fst) := by
      apply (left.distinct.subperm included).perm_of_length_le
      simpa [Registry.size] using Nat.le_of_eq (eq_of_beq sized).symm
    intro name
    cases binding : left.find? name with
    | some component => exact (held name component binding).symm
    | none =>
        cases other : right.find? name with
        | none => rfl
        | some component =>
            have named := same.symm.subset (mem_names_iff.mpr ⟨component, other⟩)
            obtain ⟨_, bound⟩ := mem_names_iff.mp named
            rw [binding] at bound
            cases bound
  · intro agree
    have same : (left.bindings.map Prod.fst).Perm (right.bindings.map Prod.fst) := by
      apply (List.perm_ext_iff_of_nodup left.distinct right.distinct).mpr
      intro name
      rw [mem_names_iff, mem_names_iff, agree]
    apply Bool.and_eq_true_iff.mpr
    constructor
    · simpa [Registry.size] using same.length_eq
    · apply List.all_eq_true.mpr
      intro binding member
      rw [← agree, find?_eq_some_iff.mpr member]
      exact beq_self_eq_true _

end Registry

namespace Number

variable {left middle right : Number}

theorem units_eq_zero_iff {exponent : Fin 2047} {fraction : Fin (Nat.pow 2 52)} :
    units exponent fraction = 0 ↔ exponent.val = 0 ∧ fraction.val = 0 := by
  have spaced : spacing exponent ≠ 0 := Nat.ne_of_gt (Nat.pow_pos (by decide))
  have leading : Nat.pow 2 52 ≠ 0 := by decide
  unfold units significand
  rw [Nat.mul_eq_zero, or_iff_left spaced]
  split
  · rename_i subnormal
    rw [and_iff_right subnormal]
  · rename_i normal
    refine iff_of_false ?_ (fun both => normal both.1)
    intro vanishes
    exact leading (Nat.add_eq_zero_iff.mp vanishes).1

private theorem equal_iff :
    left.equal right = true ↔
      left ≠ .nan ∧
        (left = right ∨ ∃ negative negative', left = .zero negative ∧ right = .zero negative') := by
  cases left with
  | nan => exact iff_of_false nofun (fun different => different.1 rfl)
  | infinite negative => cases right <;> simp [equal, zero]
  | finite negative exponent fraction =>
      cases right with
      | nan => simp [equal, zero]
      | infinite negative' => simp [equal, zero]
      | finite negative' exponent' fraction' =>
          simp only [equal, Bool.and_eq_true, Bool.or_eq_true, beq_iff_eq, units_eq_zero_iff]
          constructor
          · intro equal
            obtain ⟨⟨rfl, rfl⟩, rfl | ⟨exponent, fraction⟩⟩ := equal
            · exact ⟨nofun, .inl rfl⟩
            · refine ⟨nofun, .inr ⟨negative, negative', ?_⟩⟩
              simp [zero, Fin.ext_iff, exponent, fraction]
          · intro equal
            obtain ⟨-, same | ⟨_, _, zero, zero'⟩⟩ := equal
            · cases same
              exact ⟨⟨rfl, rfl⟩, .inl rfl⟩
            · cases zero
              cases zero'
              exact ⟨⟨rfl, rfl⟩, .inr ⟨rfl, rfl⟩⟩

private theorem equal_symm (equal : left.equal right = true) : right.equal left = true := by
  obtain ⟨proper, rfl | ⟨negative, negative', rfl, rfl⟩⟩ := equal_iff.mp equal
  · exact equal
  · exact equal_iff.mpr ⟨nofun, .inr ⟨negative', negative, rfl, rfl⟩⟩

private theorem equal_trans (first : left.equal middle = true) (second : middle.equal right = true) :
    left.equal right = true := by
  obtain ⟨proper, rfl | ⟨negative, negative', rfl, rfl⟩⟩ := equal_iff.mp first
  · exact second
  · obtain ⟨-, rfl | ⟨_, negative'', -, rfl⟩⟩ := equal_iff.mp second
    · exact first
    · exact equal_iff.mpr ⟨nofun, .inr ⟨negative, negative'', rfl, rfl⟩⟩

private theorem equal_self_iff (number : Number) : number.equal number = true ↔ number ≠ .nan := by
  rw [equal_iff]
  exact and_iff_left (.inl rfl)

end Number

namespace Bag

variable {α : Type} {same : α → α → Prop} {left middle right : Bag α}

/-- Two bags have the same keys; what stands under the same key is equally visible, with values that
are the same. The order of the entries does not count. -/
structure Agree (same : α → α → Prop) (left right : Bag α) : Prop where
  keys : ∀ key, key ∈ left.keys ↔ key ∈ right.keys
  entries : ∀ entry ∈ left.entries, ∀ other ∈ right.entries, entry.key = other.key →
    entry.enumerable = other.enumerable ∧ same entry.value other.value

theorem Agree.symm
    (flip : ∀ entry ∈ left.entries, ∀ other ∈ right.entries,
      same entry.value other.value → same other.value entry.value)
    (agree : left.Agree same right) : right.Agree same left where
  keys key := (agree.keys key).symm
  entries := by
    intro other held entry member shared
    obtain ⟨visible, equal⟩ := agree.entries entry member other held shared.symm
    exact ⟨visible.symm, flip entry member other held equal⟩

theorem Agree.trans
    (chain : ∀ entry ∈ left.entries, ∀ between ∈ middle.entries, ∀ other ∈ right.entries,
      same entry.value between.value → same between.value other.value →
        same entry.value other.value)
    (first : left.Agree same middle) (second : middle.Agree same right) :
    left.Agree same right where
  keys key := (first.keys key).trans (second.keys key)
  entries := by
    intro entry member other held shared
    have key : entry.key ∈ middle.keys := (first.keys _).mp (List.mem_map_of_mem member)
    obtain ⟨between, inner, meets⟩ := List.mem_map.mp key
    obtain ⟨visible, equal⟩ := first.entries entry member between inner meets.symm
    obtain ⟨visible', equal'⟩ := second.entries between inner other held (meets.trans shared)
    exact ⟨visible.trans visible', chain entry member between inner other held equal equal'⟩

private theorem agree_self_iff {bag : Bag α} :
    bag.Agree same bag ↔ ∀ entry ∈ bag.entries, same entry.value entry.value := by
  constructor
  · intro agree entry member
    exact (agree.entries entry member entry member rfl).2
  · intro each
    refine ⟨fun key => Iff.rfl, ?_⟩
    intro entry member other held shared
    have found : some entry = some other := by
      rw [← find?_key member, shared, find?_key held]
    cases found
    exact ⟨rfl, each entry member⟩

private theorem agree_iff_found :
    left.Agree same right ↔
      left.size = right.size ∧ ∀ entry ∈ left.entries, ∃ other, right.find? entry.key = some other ∧
        entry.enumerable = other.enumerable ∧ same entry.value other.value := by
  have sizes : left.size = right.size ↔ left.keys.length = right.keys.length := by
    rw [Bag.keys, Bag.keys, List.length_map, List.length_map, length_entries, length_entries]
  rw [sizes]
  constructor
  · intro agree
    have all : left.keys.Perm right.keys :=
      (List.perm_ext_iff_of_nodup left.nodup_keys right.nodup_keys).mpr agree.keys
    refine ⟨all.length_eq, ?_⟩
    intro entry member
    obtain ⟨other, held, shared⟩ :=
      List.mem_map.mp ((agree.keys _).mp (List.mem_map_of_mem member))
    have found := find?_key held
    rw [shared] at found
    exact ⟨other, found, agree.entries entry member other held shared.symm⟩
  · intro each
    obtain ⟨sized, found⟩ := each
    have included : left.keys ⊆ right.keys := by
      intro key held
      obtain ⟨entry, member, rfl⟩ := List.mem_map.mp held
      obtain ⟨other, first, -⟩ := found entry member
      have shared : other.key = entry.key := by simpa using List.find?_some first
      exact shared ▸ List.mem_map_of_mem (List.mem_of_find?_eq_some first)
    have all : left.keys.Perm right.keys :=
      (left.nodup_keys.subperm included).perm_of_length_le (Nat.le_of_eq sized.symm)
    refine ⟨fun key => all.mem_iff, ?_⟩
    intro entry member other held shared
    obtain ⟨_, first, agrees⟩ := found entry member
    rw [shared, find?_key held] at first
    cases first
    exact agrees

private theorem exists_of_mem_fill {slots : List Slot} {value : Fin slots.length → α} {entry : Entry α}
    (member : entry ∈ fill slots value) : ∃ i, entry.value = value i := by
  induction slots with
  | nil => cases member
  | cons slot slots ih =>
      rcases List.mem_cons.mp member with rfl | later
      · exact ⟨_, rfl⟩
      · obtain ⟨i, held⟩ := ih later
        exact ⟨i.succ, held⟩

private theorem matchesAll_iff {others : Bag α} {slots : List Slot} {value : Fin slots.length → α}
    {test : α → α → Bool} :
    (others.matchesAll slots fun i other => test (value i) other) = true ↔
      ∀ entry ∈ fill slots value, ∃ other, others.find? entry.key = some other ∧
        entry.enumerable = other.enumerable ∧ test entry.value other.value = true := by
  induction slots with
  | nil => exact iff_of_true rfl (List.forall_mem_nil _)
  | cons slot slots ih =>
      rw [matchesAll, Bool.and_eq_true, ih, fill, List.forall_mem_cons]
      apply and_congr_left
      intro _
      cases found : others.find? slot.key with
      | none => simp
      | some other => simp

end Bag

namespace Value

@[elab_as_elim] theorem nestedInduction {motive : Value → Prop} (null : motive .null)
    (bool : ∀ value, motive (.bool value)) (number : ∀ value, motive (.number value))
    (text : ∀ value, motive (.text value))
    (list : ∀ items, (∀ item ∈ items, motive item) → motive (.list items))
    (map : ∀ bag : Bag Value, (∀ entry ∈ bag.entries, motive entry.value) → motive (.map bag))
    (components : ∀ registry, motive (.components registry)) (value : Value) : motive value :=
  @Value.rec motive (fun items => ∀ item ∈ items, motive item)
    (fun bag => ∀ entry ∈ bag.entries, motive entry.value)
    null bool number text list map components
    (List.forall_mem_nil _) (fun _ _ first rest => List.forall_mem_cons.mpr ⟨first, rest⟩)
    (fun _ _ _ each _ member => by
      obtain ⟨i, held⟩ := Bag.exists_of_mem_fill member
      exact held ▸ each i) value

inductive OccursIn (value : Value) : Value → Prop where
  | self : OccursIn value value
  | item {items item} : item ∈ items → OccursIn value item → OccursIn value (.list items)
  | entry {bag : Bag Value} {entry} :
      entry ∈ bag.entries → OccursIn value entry.value → OccursIn value (.map bag)

private theorem beqItems_iff {items others : List Value} :
    beqItems items others = true ↔ items.length = others.length ∧
      ∀ (i : Nat) (here : i < items.length) (there : i < others.length),
        (items[i] == others[i]) = true := by
  induction items generalizing others with
  | nil =>
      cases others with
      | nil => exact iff_of_true rfl ⟨rfl, nofun⟩
      | cons other others => exact iff_of_false nofun (fun both => nomatch both.1)
  | cons item items ih =>
      cases others with
      | nil => exact iff_of_false nofun (fun both => nomatch both.1)
      | cons other others =>
          change (item.beq other && beqItems items others) = true ↔ _
          rw [Bool.and_eq_true, ih]
          constructor
          · intro both
            obtain ⟨first, sized, rest⟩ := both
            refine ⟨congrArg Nat.succ sized, ?_⟩
            intro i here there
            cases i with
            | zero => exact first
            | succ i => exact rest i (Nat.lt_of_succ_lt_succ here) (Nat.lt_of_succ_lt_succ there)
          · intro both
            obtain ⟨sized, each⟩ := both
            refine ⟨each 0 (Nat.zero_lt_succ _) (Nat.zero_lt_succ _), Nat.succ.inj sized, ?_⟩
            intro i here there
            exact each (i + 1) (Nat.succ_lt_succ here) (Nat.succ_lt_succ there)

private theorem beq_null_iff {right : Value} : (Value.null == right) = true ↔ right = .null := by
  cases right with
  | null => exact iff_of_true rfl rfl
  | _ => exact iff_of_false nofun nofun

private theorem beq_bool_iff {value : Bool} {right : Value} :
    (Value.bool value == right) = true ↔ right = .bool value := by
  cases right with
  | bool other =>
      change (value == other) = true ↔ _
      rw [beq_iff_eq, Value.bool.injEq, eq_comm]
  | _ => exact iff_of_false nofun nofun

private theorem beq_text_iff {value : String} {right : Value} :
    (Value.text value == right) = true ↔ right = .text value := by
  cases right with
  | text other =>
      change (value == other) = true ↔ _
      rw [beq_iff_eq, Value.text.injEq, eq_comm]
  | _ => exact iff_of_false nofun nofun

private theorem beq_number_iff {value : Number} {right : Value} :
    (Value.number value == right) = true ↔
      ∃ other, right = .number other ∧ value.equal other = true := by
  cases right with
  | number other =>
      simp only [Value.number.injEq, exists_eq_left']
      exact Iff.rfl
  | _ => exact iff_of_false nofun nofun

private theorem beq_components_iff {registry : Registry} {right : Value} :
    (Value.components registry == right) = true ↔
      ∃ other, right = .components other ∧ (registry == other) = true := by
  cases right with
  | components other =>
      simp only [Value.components.injEq, exists_eq_left']
      exact Iff.rfl
  | _ => exact iff_of_false nofun nofun

private theorem beq_list_iff {items : List Value} {right : Value} :
    (Value.list items == right) = true ↔
      ∃ others, right = .list others ∧ items.length = others.length ∧
        ∀ (i : Nat) (here : i < items.length) (there : i < others.length),
          (items[i] == others[i]) = true := by
  cases right with
  | list others =>
      simp only [Value.list.injEq, exists_eq_left']
      exact beqItems_iff
  | _ => exact iff_of_false nofun nofun

private theorem beq_map_iff {bag : Props} {right : Value} :
    (Value.map bag == right) = true ↔ ∃ others, right = .map others ∧ (bag == others) = true := by
  cases right with
  | map others =>
      simp only [Value.map.injEq, exists_eq_left']
      exact Iff.rfl
  | _ => exact iff_of_false nofun nofun

end Value

private theorem Props.beq_iff_found {left right : Props} :
    (left == right) = true ↔ left.size = right.size ∧
      ∀ entry ∈ left.entries, ∃ other, right.find? entry.key = some other ∧
        entry.enumerable = other.enumerable ∧ (entry.value == other.value) = true := by
  change (_ && _) = true ↔ _
  rw [Bool.and_eq_true, beq_iff_eq]
  exact and_congr_right fun _ => Bag.matchesAll_iff

private theorem Props.beq_iff_agree {left right : Props} :
    (left == right) = true ↔ left.Agree (fun value other => (value == other) = true) right := by
  rw [beq_iff_found, Bag.agree_iff_found]

namespace Value

private theorem beq_symm {left right : Value} (equal : (left == right) = true) : (right == left) = true := by
  induction left using nestedInduction generalizing right with
  | null =>
      cases beq_null_iff.mp equal
      exact equal
  | bool value =>
      cases beq_bool_iff.mp equal
      exact equal
  | text value =>
      cases beq_text_iff.mp equal
      exact equal
  | number value =>
      obtain ⟨other, rfl, same⟩ := beq_number_iff.mp equal
      exact beq_number_iff.mpr ⟨value, rfl, Number.equal_symm same⟩
  | components registry =>
      obtain ⟨other, rfl, same⟩ := beq_components_iff.mp equal
      refine beq_components_iff.mpr ⟨registry, rfl, Registry.beq_iff.mpr ?_⟩
      exact fun name => (Registry.beq_iff.mp same name).symm
  | list items ih =>
      obtain ⟨others, rfl, sized, each⟩ := beq_list_iff.mp equal
      refine beq_list_iff.mpr ⟨items, rfl, sized.symm, ?_⟩
      intro i here there
      exact ih _ (List.getElem_mem there) (each i there here)
  | map bag ih =>
      obtain ⟨others, rfl, same⟩ := beq_map_iff.mp equal
      refine beq_map_iff.mpr ⟨bag, rfl, Props.beq_iff_agree.mpr ?_⟩
      apply (Props.beq_iff_agree.mp same).symm
      intro entry member other _
      exact ih entry member

private theorem beq_trans {left middle right : Value} (first : (left == middle) = true)
    (second : (middle == right) = true) : (left == right) = true := by
  induction left using nestedInduction generalizing middle right with
  | null =>
      cases beq_null_iff.mp first
      exact second
  | bool value =>
      cases beq_bool_iff.mp first
      exact second
  | text value =>
      cases beq_text_iff.mp first
      exact second
  | number value =>
      obtain ⟨between, rfl, same⟩ := beq_number_iff.mp first
      obtain ⟨other, rfl, same'⟩ := beq_number_iff.mp second
      exact beq_number_iff.mpr ⟨other, rfl, Number.equal_trans same same'⟩
  | components registry =>
      obtain ⟨between, rfl, same⟩ := beq_components_iff.mp first
      obtain ⟨other, rfl, same'⟩ := beq_components_iff.mp second
      refine beq_components_iff.mpr ⟨other, rfl, Registry.beq_iff.mpr ?_⟩
      exact fun name => (Registry.beq_iff.mp same name).trans (Registry.beq_iff.mp same' name)
  | list items ih =>
      obtain ⟨between, rfl, sized, each⟩ := beq_list_iff.mp first
      obtain ⟨others, rfl, sized', each'⟩ := beq_list_iff.mp second
      refine beq_list_iff.mpr ⟨others, rfl, sized.trans sized', ?_⟩
      intro i here there
      have inner : i < between.length := sized ▸ here
      exact ih _ (List.getElem_mem here) (each i here inner) (each' i inner there)
  | map bag ih =>
      obtain ⟨between, rfl, same⟩ := beq_map_iff.mp first
      obtain ⟨others, rfl, same'⟩ := beq_map_iff.mp second
      refine beq_map_iff.mpr ⟨others, rfl, Props.beq_iff_agree.mpr ?_⟩
      refine .trans ?_ (Props.beq_iff_agree.mp same) (Props.beq_iff_agree.mp same')
      intro entry member inner _ other _
      exact ih entry member

/-- A value is equal to itself exactly if there is no `nan` in it. -/
theorem beq_self_iff {value : Value} :
    (value == value) = true ↔ ¬ (Value.number .nan).OccursIn value := by
  induction value using nestedInduction with
  | null => exact iff_of_true (beq_null_iff.mpr rfl) nofun
  | bool value => exact iff_of_true (beq_bool_iff.mpr rfl) nofun
  | text value => exact iff_of_true (beq_text_iff.mpr rfl) nofun
  | components registry =>
      exact iff_of_true (beq_components_iff.mpr ⟨registry, rfl, registry.beq_self⟩) nofun
  | number value =>
      refine (Number.equal_self_iff value).trans (not_congr ?_)
      constructor
      · intro same
        exact same ▸ .self
      · intro occurs
        cases occurs
        rfl
  | list items ih =>
      have pointwise : (Value.list items == .list items) = true ↔
          ∀ item ∈ items, (item == item) = true := by
        rw [beq_list_iff]
        constructor
        · intro equal item member
          obtain ⟨_, same, -, each⟩ := equal
          cases same
          obtain ⟨i, here, rfl⟩ := List.getElem_of_mem member
          exact each i here here
        · intro each
          exact ⟨items, rfl, rfl, fun i here _ => each _ (List.getElem_mem here)⟩
      rw [pointwise]
      constructor
      · intro each occurs
        cases occurs with
        | item member inner => exact (ih _ member).mp (each _ member) inner
      · intro free item member
        exact (ih item member).mpr fun inner => free (.item member inner)
  | map bag ih =>
      have pointwise : (Value.map bag == .map bag) = true ↔
          ∀ entry ∈ bag.entries, (entry.value == entry.value) = true :=
        Props.beq_iff_agree.trans Bag.agree_self_iff
      rw [pointwise]
      constructor
      · intro each occurs
        cases occurs with
        | entry member inner => exact (ih _ member).mp (each _ member) inner
      · intro free entry member
        exact (ih entry member).mpr fun inner => free (.entry member inner)

/-- Equality of values is symmetric and transitive, and reflexive but for `nan`, at every depth. Bags
are equal exactly if they have the same keys, equally visible and with equal values, whatever order
they were written in, and registries exactly if they bind the same names to the same components. -/
theorem equality_laws :
    ((∀ left right : Value, (left == right) = (right == left)) ∧
      (∀ left middle right : Value,
        (left == middle) = true → (middle == right) = true → (left == right) = true) ∧
      ∀ value : Value, (value == value) = true ↔ ¬ (Value.number .nan).OccursIn value) ∧
    ((∀ left right : Props, (left == right) = (Value.map left == Value.map right)) ∧
      ∀ left right : Props,
        (left == right) = true ↔ left.Agree (fun value other => (value == other) = true) right) ∧
    ∀ left right : Registry, (left == right) = true ↔ ∀ name, left.find? name = right.find? name := by
  refine ⟨⟨?_, ?_, fun value => beq_self_iff⟩, ⟨fun left right => rfl, ?_⟩, ?_⟩
  · intro left right
    exact Bool.eq_iff_iff.mpr ⟨beq_symm, beq_symm⟩
  · intro left middle right
    exact beq_trans
  · intro left right
    exact Props.beq_iff_agree
  · intro left right
    exact Registry.beq_iff

def noteParts : List (Entry Value) :=
  [⟨.named "open", .bool true, true⟩, ⟨.symbol "open", .null, false⟩,
    ⟨.named "parts", .components (Registry.empty.insert ⟨"p"⟩ (.custom 0)), true⟩]

def noteEntries (rank : Number) (parts : List (Entry Value)) : List (Entry Value) :=
  [⟨.named "tags", .list [.text "new", .map (parts.foldl Bag.put ∅)], true⟩,
    ⟨.symbol "rank", .number rank, false⟩]

def firstNote : Value :=
  .map ((noteEntries (.zero false) noteParts).foldl Bag.put ∅)

def secondNote : Value :=
  .map ((noteEntries (.zero true) noteParts.reverse).reverse.foldl Bag.put ∅)

theorem equality_laws_notes :
    (firstNote == secondNote) = true ∧ (secondNote == firstNote) = true ∧
      (secondNote == secondNote) = true ∧ ¬ (Value.number .nan).OccursIn secondNote ∧
      (Value.list [secondNote, .number .nan] == Value.list [secondNote, .number .nan]) = false := by
  obtain ⟨⟨symmetric, transitive, self⟩, -, -⟩ := equality_laws
  have forth : (firstNote == secondNote) = true := by decide
  have back : (secondNote == firstNote) = true := symmetric _ _ ▸ forth
  have again := transitive _ _ _ back forth
  refine ⟨forth, back, again, (self _).mp again, ?_⟩
  apply Bool.eq_false_iff.mpr
  intro equal
  exact (self _).mp equal (.item (List.mem_cons_of_mem _ List.mem_cons_self) .self)

end Value
end Quire
