import Quire.Proofs.Merging

set_option autoImplicit false

/-!
Merging and exclusion as an algebra of bags, the order of entries included.

A merge writes the entries that its sources offer one after the other. Entries that were merged
before can be written in the place of the entries that they were merged from: they come in the order
of the first writes and hold what the last ones wrote.
-/

namespace Quire

namespace Bag

variable {α : Type}

private theorem foldl_put_put {entry : Entry α} {entries : List (Entry α)}
    (elsewhere : ∀ other ∈ entries, other.key ≠ entry.key) {bag : Bag α}
    (present : entry.key ∈ bag.keys) :
    (entries.foldl put bag).put entry = entries.foldl put (bag.put entry) := by
  induction entries generalizing bag with
  | nil => rfl
  | cons other entries ih =>
      obtain ⟨here, later⟩ := List.forall_mem_cons.mp elsewhere
      have still : entry.key ∈ (bag.put other).keys := mem_keys_put.mpr (.inr present)
      rw [List.foldl_cons, ih later still, put_comm here present, List.foldl_cons]

private theorem foldl_putBy {entries : List (Entry α)} (distinct : (entries.map Entry.key).Nodup)
    (entry : Entry α) (bag : Bag α) :
    (putBy Entry.key entry entries).foldl put bag = (entries.foldl put bag).put entry := by
  induction entries generalizing bag with
  | nil => rfl
  | cons other rest ih =>
      obtain ⟨free, later⟩ := List.nodup_cons.mp distinct
      by_cases here : other.key = entry.key
      · have elsewhere : ∀ further ∈ rest, further.key ≠ entry.key := by
          intro further member same
          exact free (here.trans same.symm ▸ List.mem_map_of_mem member)
        have present : entry.key ∈ (bag.put other).keys := mem_keys_put.mpr (.inl here.symm)
        rw [putBy, if_pos here, List.foldl_cons, List.foldl_cons,
          foldl_put_put elsewhere present, put_put here]
      · rw [putBy, if_neg here, List.foldl_cons, List.foldl_cons, ih later]

/-- Writing what some writes came to is making these writes. -/
theorem foldl_put_foldl_put (entries : List (Entry α)) (bag : Bag α) :
    (entries.foldl put ∅).entries.foldl put bag = entries.foldl put bag := by
  induction entries using List.reverseRecOn with
  | nil => rfl
  | append_singleton entries entry ih =>
      rw [List.foldl_append, List.foldl_append, List.foldl_cons, List.foldl_nil, List.foldl_cons,
        List.foldl_nil, ← ih, entries_put]
      exact foldl_putBy (nodup_keys _) entry bag

private theorem entries_foldl_put {entries : List (Entry α)} (distinct : (entries.map Entry.key).Nodup) :
    (entries.foldl put ∅).entries = entries := by
  induction entries using List.reverseRecOn with
  | nil => rfl
  | append_singleton entries entry ih =>
      have apart : (entries.map Entry.key ++ [entry.key]).Nodup := by
        simpa using distinct
      obtain ⟨earlier, -, fresh⟩ := List.nodup_append.mp apart
      have free : ∀ other ∈ entries, other.key ≠ entry.key := by
        intro other member
        exact fresh _ (List.mem_map_of_mem member) _ List.mem_cons_self
      rw [List.foldl_append, List.foldl_cons, List.foldl_nil, entries_put, ih earlier,
        putBy_of_forall_ne free]

private theorem foldl_put_entries (bag : Bag α) : bag.entries.foldl put ∅ = bag :=
  ext (entries_foldl_put bag.nodup_keys)

private theorem foldl_put_of_subset {bag : Bag α} {entries : List (Entry α)}
    (present : ∀ entry ∈ entries, entry ∈ bag.entries) : entries.foldl put bag = bag := by
  induction entries with
  | nil => rfl
  | cons entry entries ih =>
      obtain ⟨here, later⟩ := List.forall_mem_cons.mp present
      rw [List.foldl_cons, put_eq_self (find?_key here), ih later]

def offered (accept : Key → Bool) (sources : List (Option (Bag α))) : List (Entry α) :=
  (sources.flatMap fun source => (source.getD ∅).entries).filter fun entry =>
    entry.enumerable && accept entry.key

private theorem mergeKeys_eq_foldl (accept : Key → Bool) (sources : List (Option (Bag α))) :
    mergeKeys accept sources = (offered accept sources).foldl put ∅ := rfl

@[simp] theorem offered_append (accept : Key → Bool) (sources others : List (Option (Bag α))) :
    offered accept (sources ++ others) = offered accept sources ++ offered accept others := by
  simp [offered]

@[simp] theorem offered_mergeKeys (accept : Key → Bool) (sources : List (Option (Bag α))) :
    offered accept [some (mergeKeys accept sources)] = (mergeKeys accept sources).entries := by
  simp only [offered, List.flatMap_singleton, Option.getD_some]
  apply List.filter_eq_self.mpr
  intro entry member
  obtain ⟨enumerable, accepted, -⟩ := mem_mergeKeys member
  rw [enumerable, accepted, Bool.and_true]

private theorem offered_map_without (accept : Key → Bool) (sources : List (Option (Bag α)))
    (names : List String) :
    offered accept (sources.map fun source => source.map fun bag => bag.without names) =
      (offered accept sources).filter fun entry => !names.contains entry.key.name := by
  have each : ∀ source : Option (Bag α),
      ((source.map fun bag : Bag α => bag.without names).getD ∅).entries =
        (source.getD ∅).entries.filter fun entry =>
          entry.enumerable && !names.contains entry.key.name := by
    intro source
    cases source with
    | none => rfl
    | some bag => exact entries_filter ..
  simp only [offered, List.flatMap_map, each, ← List.filter_flatMap, List.filter_filter]
  apply List.filter_congr
  intro entry _
  cases entry.enumerable <;> simp [Bool.and_comm]

section Grouping

variable (accept : Key → Bool)

/-- Some of the sources can be merged beforehand. -/
theorem mergeKeys_group (before group after : List (Option (Bag α))) :
    mergeKeys accept (before ++ some (mergeKeys accept group) :: after) =
      mergeKeys accept (before ++ group ++ after) := by
  rw [List.append_cons]
  simp only [mergeKeys_eq_foldl accept (_ ++ after), offered_append, List.foldl_append,
    offered_mergeKeys]
  rw [mergeKeys_eq_foldl accept group, foldl_put_foldl_put]

private theorem mergeKeys_groups (groups : List (List (Option (Bag α)))) :
    mergeKeys accept (groups.map fun group => some (mergeKeys accept group)) =
      mergeKeys accept groups.flatten := by
  suffices merged : ∀ before, mergeKeys accept
      (before ++ groups.map fun group => some (mergeKeys accept group)) =
        mergeKeys accept (before ++ groups.flatten) from merged []
  induction groups with
  | nil => exact fun before => rfl
  | cons group groups ih =>
      intro before
      rw [List.map_cons, mergeKeys_group, ih, List.flatten_cons, List.append_assoc]

private theorem mergeKeys_assoc (first second third : Option (Bag α)) :
    mergeKeys accept [some (mergeKeys accept [first, second]), third] =
      mergeKeys accept [first, some (mergeKeys accept [second, third])] :=
  (mergeKeys_group accept [] [first, second] [third]).trans
    (mergeKeys_group accept [first] [second, third] []).symm

private theorem mergeKeys_empty_left (sources : List (Option (Bag α))) :
    mergeKeys accept [some ∅, some (mergeKeys accept sources)] = mergeKeys accept sources := by
  refine (mergeKeys_group accept [some ∅] sources []).trans ?_
  rw [List.append_nil]
  rfl

private theorem mergeKeys_empty_right (sources : List (Option (Bag α))) :
    mergeKeys accept [some (mergeKeys accept sources), some ∅] = mergeKeys accept sources := by
  refine (mergeKeys_group accept [] sources [some ∅]).trans ?_
  have nothing : offered accept [some (∅ : Bag α)] = [] := rfl
  rw [List.nil_append, mergeKeys_eq_foldl, offered_append, nothing, List.append_nil]
  rfl

private theorem mergeKeys_append_self (sources : List (Option (Bag α))) :
    mergeKeys accept (sources ++ sources) = mergeKeys accept sources := by
  rw [mergeKeys_eq_foldl, offered_append, List.foldl_append, ← mergeKeys_eq_foldl,
    ← foldl_put_foldl_put]
  exact foldl_put_of_subset fun entry member => member

private theorem without_mergeKeys (sources : List (Option (Bag α))) (names : List String) :
    (mergeKeys accept sources).without names =
      mergeKeys accept (sources.map fun source => source.map fun bag => bag.without names) := by
  have shown : ((mergeKeys accept sources).without names).entries =
      (mergeKeys accept sources).entries.filter fun entry =>
        !names.contains entry.key.name := by
    rw [without, entries_filter]
    apply List.filter_congr
    intro entry member
    rw [(mem_mergeKeys member).1, Bool.true_and]
  apply ext
  rw [mergeKeys_eq_foldl accept (sources.map _), offered_map_without, shown]
  exact filter_foldl_put (fun key => !names.contains key.name) (offered accept sources) ∅

end Grouping

private theorem without_without (bag : Bag α) (names others : List String) :
    (bag.without names).without others = bag.without (names ++ others) := by
  apply ext
  simp only [without, entries_filter, List.filter_filter]
  apply List.filter_congr
  intro entry _
  cases entry.enumerable <;> simp [Bool.and_comm]

private theorem without_congr (bag : Bag α) {names others : List String}
    (same : ∀ name, name ∈ names ↔ name ∈ others) : bag.without names = bag.without others := by
  apply ext
  simp only [without, entries_filter]
  apply List.filter_congr
  intro entry _
  have both : names.contains entry.key.name = others.contains entry.key.name := by
    rw [Bool.eq_iff_iff, List.contains_iff_mem, List.contains_iff_mem]
    exact same entry.key.name
  rw [both]

private theorem mergeWithSymbols_singleton (bag : Bag α) : mergeWithSymbols [some bag] = bag.without [] := by
  have shown : offered (fun _ => true) [some bag] = (bag.without []).entries := by
    simp [offered, without]
  refine (mergeKeys_eq_foldl _ _).trans ?_
  rw [shown, foldl_put_entries]

/-- Merging and exclusion form an algebra, for merges of either kind and with the order of entries
counted. Merging sources group by group is merging them at once, so merging is associative and
idempotent, and the empty bag is neutral for what merging gives. Exclusions add up and depend only on
which names are excluded; excluding nothing is merging one bag alone; and exclusion can be moved from
a merge to its sources. -/
theorem merge_exclusion_laws {combine : List (Option (Bag α)) → Bag α}
    (either : combine = merge ∨ combine = mergeWithSymbols) (bag : Bag α) :
    ((∀ groups : List (List (Option (Bag α))),
        combine (groups.map fun group => some (combine group)) = combine groups.flatten) ∧
      (∀ first second third, combine [some (combine [first, second]), third] =
        combine [first, some (combine [second, third])]) ∧
      ∀ sources, combine (sources ++ sources) = combine sources ∧
        combine [some (combine sources), some (combine sources)] = combine sources ∧
        combine [some ∅, some (combine sources)] = combine sources ∧
        combine [some (combine sources), some ∅] = combine sources) ∧
    ((∀ names others, (bag.without names).without others = bag.without (names ++ others)) ∧
      (∀ names others, (∀ name, name ∈ names ↔ name ∈ others) →
        bag.without names = bag.without others) ∧
      mergeWithSymbols [some bag] = bag.without []) ∧
    ∀ sources names, (combine sources).without names =
      combine (sources.map fun source => source.map fun bag => bag.without names) := by
  obtain ⟨accept, rfl⟩ : ∃ accept, combine = mergeKeys accept := by
    rcases either with rfl | rfl
    · exact ⟨Key.isNamed, rfl⟩
    · exact ⟨fun _ => true, rfl⟩
  refine ⟨⟨mergeKeys_groups accept, mergeKeys_assoc accept, ?_⟩,
    ⟨without_without bag, fun names others => without_congr bag, mergeWithSymbols_singleton bag⟩,
    without_mergeKeys accept⟩
  intro sources
  have twice := mergeKeys_append_self accept sources
  refine ⟨twice, ?_, mergeKeys_empty_left accept sources, mergeKeys_empty_right accept sources⟩
  have grouped := mergeKeys_groups accept [sources, sources]
  rw [List.flatten_cons, List.flatten_cons, List.flatten_nil, List.append_nil, twice] at grouped
  exact grouped

theorem merge_exclusion_laws_headings :
    mergeWithSymbols [some (mergeWithSymbols [some defaultHeading, none]),
        some (mergeWithSymbols [some givenHeading, some notedHeading])] =
          mergeWithSymbols [some defaultHeading, none, some givenHeading, some notedHeading] ∧
      mergeWithSymbols [some defaultHeading] = defaultHeading.without [] ∧
      (merge [some defaultHeading, none, some givenHeading]).without ["id", "origin"] =
        merge [some (defaultHeading.without ["id", "origin"]), none,
          some (givenHeading.without ["id", "origin"])] := by
  obtain ⟨⟨groups, -⟩, ⟨-, -, single⟩, -⟩ := merge_exclusion_laws (.inr rfl) defaultHeading
  obtain ⟨-, -, moved⟩ := merge_exclusion_laws (.inl rfl) defaultHeading
  exact ⟨groups [[some defaultHeading, none], [some givenHeading, some notedHeading]], single,
    moved [some defaultHeading, none, some givenHeading] ["id", "origin"]⟩

end Bag
end Quire
