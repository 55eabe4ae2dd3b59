import Quire.Bag

set_option autoImplicit false

/-!
Laws of property bags: what a write changes, where entries come from, and how exclusion and merging
treat a property that was written last.
-/

namespace Quire

namespace Bag

variable {α : Type}

theorem mem_putBy {new entry : Entry α} {entries : List (Entry α)}
    (member : entry ∈ putBy Entry.key new entries) : entry = new ∨ entry ∈ entries := by
  induction entries with
  | nil => exact .inl (List.mem_singleton.mp member)
  | cons first entries ih =>
      rw [putBy] at member
      split at member
      · rcases List.mem_cons.mp member with same | later
        · exact .inl same
        · exact .inr (List.mem_cons_of_mem _ later)
      · rcases List.mem_cons.mp member with rfl | later
        · exact .inr List.mem_cons_self
        · exact (ih later).imp_right (List.mem_cons_of_mem _)

theorem mem_put {bag : Bag α} {new entry : Entry α} (member : entry ∈ (bag.put new).entries) :
    entry = new ∨ entry ∈ bag.entries := by
  rw [entries_put] at member
  exact mem_putBy member

theorem mem_foldl_put {bag : Bag α} {entry : Entry α} {entries : List (Entry α)}
    (member : entry ∈ (entries.foldl put bag).entries) : entry ∈ bag.entries ∨ entry ∈ entries := by
  induction entries generalizing bag with
  | nil => exact .inl member
  | cons first entries ih =>
      rcases ih member with before | later
      · rcases mem_put before with rfl | kept
        · exact .inr List.mem_cons_self
        · exact .inl kept
      · exact .inr (List.mem_cons_of_mem _ later)

/-- Merging makes no entries of its own and passes on none that is hidden. -/
theorem mem_mergeKeys {accept : Key → Bool} {sources : List (Option (Bag α))} {entry : Entry α}
    (member : entry ∈ (mergeKeys accept sources).entries) :
    entry.enumerable = true ∧ accept entry.key = true ∧
      ∃ source, some source ∈ sources ∧ entry ∈ source.entries := by
  rcases mem_foldl_put member with none | taken
  · cases none
  · obtain ⟨given, shown⟩ := List.mem_filter.mp taken
    obtain ⟨enumerable, accepted⟩ := Bool.and_eq_true_iff.mp shown
    obtain ⟨source, listed, held⟩ := List.mem_flatMap.mp given
    cases source with
    | none => cases held
    | some source => exact ⟨enumerable, accepted, source, listed, held⟩

theorem mem_without {bag : Bag α} {names : List String} {entry : Entry α}
    (member : entry ∈ (bag.without names).entries) :
    entry ∈ bag.entries ∧ entry.enumerable = true ∧ entry.key.name ∉ names := by
  rw [without, entries_filter] at member
  obtain ⟨given, shown⟩ := List.mem_filter.mp member
  obtain ⟨enumerable, kept⟩ := Bool.and_eq_true_iff.mp shown
  exact ⟨given, enumerable, by simpa using kept⟩

theorem mem_named {bag : Bag α} {name : String} {value : α} :
    (name, value) ∈ bag.named ↔ ⟨.named name, value, true⟩ ∈ bag.entries := by
  constructor
  · intro listed
    obtain ⟨⟨key, held, enumerable⟩, member, shown⟩ := List.mem_filterMap.mp listed
    cases key with
    | symbol other => cases shown
    | named other =>
        cases enumerable with
        | false => cases shown
        | true =>
            cases shown
            exact member
  · intro member
    exact List.mem_filterMap.mpr ⟨_, member, rfl⟩

theorem find?_put (bag : Bag α) (entry : Entry α) (key : Key) :
    (bag.put entry).find? key = if entry.key = key then some entry else bag.find? key := by
  unfold find?
  rw [entries_put]
  induction bag.entries with
  | nil => by_cases same : entry.key = key <;> simp [putBy, same]
  | cons other rest ih =>
      by_cases replaced : other.key = entry.key
      · by_cases same : entry.key = key <;> simp [putBy, replaced, same]
      · simp only [putBy, if_neg replaced, List.find?_cons]
        cases passed : other.key == key with
        | false => exact ih
        | true =>
            have different : entry.key ≠ key := by
              rintro rfl
              exact replaced (eq_of_beq passed)
            rw [if_neg different]

theorem get?_insert (bag : Bag α) (name other : String) (value : α) :
    (bag.insert name value).get? other = if name = other then some value else bag.get? other := by
  unfold get? value? insert
  rw [find?_put]
  by_cases same : name = other <;> simp [same]

theorem get?_insert_of_ne {name other : String} (different : name ≠ other) (bag : Bag α)
    (value : α) : (bag.insert name value).get? other = bag.get? other := by
  rw [get?_insert, if_neg different]

theorem get?_eq_none_iff {bag : Bag α} {name : String} :
    bag.get? name = none ↔ ∀ entry ∈ bag.entries, entry.key ≠ .named name := by
  simp [get?, value?, find?]

theorem get?_mergeKeys_eq_none {accept : Key → Bool} {sources : List (Option (Bag α))}
    {name : String} (absent : ∀ source, some source ∈ sources → source.get? name = none) :
    (mergeKeys accept sources).get? name = none := by
  apply get?_eq_none_iff.mpr
  intro entry member
  obtain ⟨-, -, source, listed, held⟩ := mem_mergeKeys member
  exact get?_eq_none_iff.mp (absent source listed) entry held

theorem keys_put (bag : Bag α) (entry : Entry α) :
    (bag.put entry).keys =
      if entry.key ∈ bag.keys then bag.keys else bag.keys ++ [entry.key] := by
  rw [keys, entries_put]
  exact map_putBy entry bag.entries

theorem mem_keys_put {bag : Bag α} {entry : Entry α} {key : Key} :
    key ∈ (bag.put entry).keys ↔ key = entry.key ∨ key ∈ bag.keys := by
  rw [keys_put]
  split
  · rename_i present
    constructor
    · exact .inr
    · rintro (rfl | held)
      · exact present
      · exact held
  · rw [List.mem_append, List.mem_singleton, or_comm]

theorem putBy_putBy {first second : Entry α} (same : first.key = second.key)
    (entries : List (Entry α)) :
    putBy Entry.key second (putBy Entry.key first entries) = putBy Entry.key second entries := by
  induction entries with
  | nil => simp [putBy, same]
  | cons other rest ih =>
      by_cases here : other.key = second.key
      · simp [putBy, same, here]
      · simp [putBy, same, here, ih]

theorem putBy_comm {first second : Entry α} (different : first.key ≠ second.key)
    {entries : List (Entry α)} (present : second.key ∈ entries.map Entry.key) :
    putBy Entry.key second (putBy Entry.key first entries) =
      putBy Entry.key first (putBy Entry.key second entries) := by
  induction entries with
  | nil => cases present
  | cons other rest ih =>
      by_cases atFirst : other.key = first.key
      · simp [putBy, atFirst, different]
      · by_cases atSecond : other.key = second.key
        · simp [putBy, atSecond, different.symm]
        · have later : second.key ∈ rest.map Entry.key :=
            (List.mem_cons.mp present).resolve_left fun same => atSecond same.symm
          simp [putBy, atFirst, atSecond, ih later]

theorem put_put {first second : Entry α} (same : first.key = second.key) (bag : Bag α) :
    (bag.put first).put second = bag.put second := by
  apply ext
  rw [entries_put, entries_put, entries_put, putBy_putBy same]

theorem put_comm {first second : Entry α} (different : first.key ≠ second.key) {bag : Bag α}
    (present : second.key ∈ bag.keys) :
    (bag.put first).put second = (bag.put second).put first := by
  apply ext
  simp only [entries_put]
  exact putBy_comm different present

theorem insert_insert (bag : Bag α) (name : String) (first second : α) :
    (bag.insert name first).insert name second = bag.insert name second := by
  unfold insert
  rw [put_put]
  rfl

theorem insert_insert_comm {name other : String} (different : other ≠ name) (bag : Bag α)
    (first second value : α) :
    ((bag.insert name first).insert other value).insert name second =
      (bag.insert name second).insert other value := by
  have apart : Key.named other ≠ .named name := fun same => different (Key.named.inj same)
  have present : Key.named name ∈ (bag.insert name first).keys := mem_keys_put.mpr (.inl rfl)
  rw [← insert_insert bag name first second]
  unfold insert at present ⊢
  rw [put_comm _ present]
  exact apart

theorem putBy_eq_self {entry : Entry α} {entries : List (Entry α)}
    (stored : entries.find? (fun other => other.key == entry.key) = some entry) :
    putBy Entry.key entry entries = entries := by
  induction entries with
  | nil => cases stored
  | cons other rest ih =>
      by_cases here : other.key = entry.key
      · obtain rfl : other = entry := by simpa [here] using stored
        simp [putBy]
      · rw [putBy, if_neg here, ih (by simpa [here] using stored)]

theorem put_eq_self {bag : Bag α} {entry : Entry α} (stored : bag.find? entry.key = some entry) :
    bag.put entry = bag := by
  apply ext
  rw [entries_put, putBy_eq_self stored]

theorem putBy_of_forall_ne {entry : Entry α} {entries : List (Entry α)}
    (free : ∀ other ∈ entries, other.key ≠ entry.key) :
    putBy Entry.key entry entries = entries ++ [entry] := by
  induction entries with
  | nil => rfl
  | cons other rest ih =>
      obtain ⟨here, later⟩ := List.forall_mem_cons.mp free
      rw [putBy, if_neg here, ih later, List.cons_append]

theorem entries_insert {bag : Bag α} {name : String} (absent : bag.get? name = none) (value : α) :
    (bag.insert name value).entries = bag.entries ++ [⟨.named name, value, true⟩] := by
  rw [insert, entries_put]
  exact putBy_of_forall_ne (get?_eq_none_iff.mp absent)

theorem named_insert {bag : Bag α} {name : String} (absent : bag.get? name = none) (value : α) :
    (bag.insert name value).named = bag.named ++ [(name, value)] := by
  unfold named
  rw [entries_insert absent, List.filterMap_append]
  rfl

theorem without_insert {bag : Bag α} {name : String} {names : List String} (excluded : name ∈ names)
    (value : α) : (bag.insert name value).without names = bag.without names := by
  apply ext
  simp only [without, insert, entries_filter, entries_put]
  induction bag.entries with
  | nil => simp [putBy, Key.name, excluded]
  | cons other rest ih =>
      by_cases replaced : other.key = .named name
      · simp [putBy, replaced, Key.name, excluded]
      · simp only [putBy, if_neg replaced, List.filter_cons, ih]

theorem get?_without {bag : Bag α} {name : String} {names : List String} (excluded : name ∈ names) :
    (bag.without names).get? name = none := by
  apply get?_eq_none_iff.mpr
  intro entry member same
  obtain ⟨-, -, kept⟩ := mem_without member
  rw [same] at kept
  exact kept excluded

theorem without_self (bag : Bag α) (names : List String) :
    (bag.without names).without names = bag.without names := by
  apply ext
  simp [without, List.filter_filter]

theorem mergeWithSymbols_insert {base bag : Bag α} {name : String} (absent : bag.get? name = none)
    (value : α) :
    mergeWithSymbols [some base, some (bag.insert name value)] =
      (mergeWithSymbols [some base, some bag]).insert name value := by
  unfold mergeWithSymbols mergeKeys
  simp only [List.flatMap_cons, List.flatMap_nil, List.append_nil, Option.getD_some,
    entries_insert absent, List.filter_append, List.foldl_append]
  rfl

def erase (bag : Bag α) (key : Key) : Bag α :=
  bag.filter fun entry => entry.key != key

theorem find?_erase (bag : Bag α) (key other : Key) :
    (bag.erase key).find? other = if key = other then none else bag.find? other := by
  unfold find? erase
  rw [entries_filter, List.find?_filter]
  split
  · rename_i same
    subst same
    simp
  · rename_i different
    refine congrArg (fun test => bag.entries.find? test) (funext fun entry => ?_)
    by_cases here : entry.key = other
    · have kept : other ≠ key := fun same => different same.symm
      simp [here, kept]
    · simp [here]

theorem get?_erase (bag : Bag α) (name : String) :
    (bag.erase (.named name)).get? name = none := by
  rw [get?, value?, find?_erase, if_pos rfl]
  rfl

theorem erase_of_get?_eq_none {bag : Bag α} {name : String} (absent : bag.get? name = none) :
    bag.erase (.named name) = bag := by
  apply ext
  rw [erase, entries_filter]
  apply List.filter_eq_self.mpr
  intro entry member
  exact bne_iff_ne.mpr (get?_eq_none_iff.mp absent entry member)

theorem get?_erase_of_ne {name other : String} (different : name ≠ other) (bag : Bag α) :
    (bag.erase (.named name)).get? other = bag.get? other := by
  have apart : Key.named name ≠ .named other := fun same => different (Key.named.inj same)
  rw [get?, get?, value?, value?, find?_erase, if_neg apart]

theorem without_erase {key : Key} {names : List String} (excluded : key.name ∈ names)
    (bag : Bag α) : (bag.erase key).without names = bag.without names := by
  apply ext
  simp only [erase, without, entries_filter, List.filter_filter]
  apply List.filter_congr
  intro entry _
  by_cases here : entry.key = key
  · simp [here, excluded]
  · simp [here]

end Bag
end Quire
