import Mathlib.Data.List.Induction
import Mathlib.Data.List.Nodup
import Quire.Proofs.Bags

set_option autoImplicit false

/-!
Merging is a union of bags: a key stands where the first of the sources that show it puts it, and
holds what the last of them holds.

A bag shows an entry that is not hidden. Hidden entries are passed over wherever they stand, so that
one in a later source does not cover what an earlier source shows.
-/

namespace Quire

namespace Bag

variable {α : Type}

def shownKeys (bag : Bag α) : List Key :=
  bag.keys.filter bag.isEnumerable

def absorb (bag source : Bag α) : Bag α :=
  (source.entries.filter Entry.enumerable).foldl put bag

theorem find?_key {bag : Bag α} {entry : Entry α} (member : entry ∈ bag.entries) :
    bag.find? entry.key = some entry := by
  have distinct := bag.nodup_keys
  unfold keys at distinct
  unfold find?
  generalize bag.entries = entries at member distinct ⊢
  induction entries with
  | nil => cases member
  | cons other rest ih =>
      obtain ⟨free, later⟩ := List.nodup_cons.mp distinct
      rcases List.mem_cons.mp member with rfl | member
      · simp
      · have different : other.key ≠ entry.key := by
          intro same
          exact free (same ▸ List.mem_map_of_mem member)
        rw [List.find?_cons_of_neg (by simpa using different)]
        exact ih member later

private theorem isEnumerable_key {bag : Bag α} {entry : Entry α} (member : entry ∈ bag.entries) :
    bag.isEnumerable entry.key = entry.enumerable := by
  rw [isEnumerable, find?_key member, Option.any_some]

private theorem shownKeys_eq (bag : Bag α) :
    bag.shownKeys = (bag.entries.filter Entry.enumerable).map Entry.key := by
  rw [shownKeys, keys, List.filter_map]
  congr 1
  apply List.filter_congr
  intro entry member
  exact isEnumerable_key member

private theorem isEnumerable_iff {bag : Bag α} {key : Key} :
    bag.isEnumerable key = true ↔
      ∃ entry, bag.find? key = some entry ∧ entry.enumerable = true := by
  rw [isEnumerable, Option.any_eq_true]

private theorem mem_shownKeys {bag : Bag α} {key : Key} :
    key ∈ bag.shownKeys ↔ bag.isEnumerable key = true := by
  constructor
  · intro shown
    exact (List.mem_filter.mp shown).2
  · intro enumerable
    obtain ⟨entry, found, -⟩ := isEnumerable_iff.mp enumerable
    have same : entry.key = key := by simpa using List.find?_some found
    have member : entry ∈ bag.entries := List.mem_of_find?_eq_some found
    exact List.mem_filter.mpr ⟨same ▸ List.mem_map_of_mem member, enumerable⟩

/-- Of the places where a key is written, the first one stays. -/
theorem keys_foldl_put (entries : List (Entry α)) :
    (entries.foldl put ∅).keys = (entries.map Entry.key).eraseDups := by
  induction entries using List.reverseRecOn with
  | nil => rfl
  | append_singleton entries entry ih =>
      rw [List.foldl_append, List.foldl_cons, List.foldl_nil, keys_put, ih, List.map_append,
        List.map_singleton, List.eraseDups_append]
      simp only [List.mem_eraseDups]
      split
      · rename_i written
        have none : [entry.key].removeAll (entries.map Entry.key) = [] := by
          simpa [List.removeAll] using written
        rw [none, List.eraseDups_nil, List.append_nil]
      · rename_i unwritten
        have new : [entry.key].removeAll (entries.map Entry.key) = [entry.key] := by
          simpa [List.removeAll] using unwritten
        rw [new]
        rfl

private theorem find?_foldl_put_of_forall_ne {entries : List (Entry α)} {key : Key}
    (absent : ∀ entry ∈ entries, entry.key ≠ key) (bag : Bag α) :
    (entries.foldl put bag).find? key = bag.find? key := by
  induction entries generalizing bag with
  | nil => rfl
  | cons entry entries ih =>
      obtain ⟨here, later⟩ := List.forall_mem_cons.mp absent
      rw [List.foldl_cons, ih later, find?_put, if_neg here]

/-- What a source shows under a key replaces what was there; what it hides replaces nothing. -/
theorem find?_absorb (bag source : Bag α) (key : Key) :
    (bag.absorb source).find? key =
      if source.isEnumerable key then source.find? key else bag.find? key := by
  cases shown : source.isEnumerable key with
  | false =>
      apply find?_foldl_put_of_forall_ne
      rintro entry member rfl
      obtain ⟨held, enumerable⟩ := List.mem_filter.mp member
      rw [isEnumerable_key held, enumerable] at shown
      cases shown
  | true =>
      obtain ⟨entry, found, enumerable⟩ := isEnumerable_iff.mp shown
      obtain ⟨before, after, split⟩ := List.append_of_mem (List.mem_of_find?_eq_some found)
      obtain rfl : entry.key = key := by simpa using List.find?_some found
      have free : ∀ other ∈ after.filter Entry.enumerable, other.key ≠ entry.key := by
        intro other member same
        have distinct := source.nodup_keys
        rw [keys, split, List.map_append, List.map_cons] at distinct
        have later := (List.nodup_cons.mp distinct.of_append_right).1
        exact later (same ▸ List.mem_map_of_mem (List.mem_filter.mp member).1)
      rw [absorb, split, List.filter_append, List.filter_cons_of_pos enumerable, List.foldl_append,
        List.foldl_cons, find?_foldl_put_of_forall_ne free, find?_put, if_pos rfl, if_pos rfl,
        found]

theorem mergeWithSymbols_eq_foldl (sources : List (Option (Bag α))) :
    mergeWithSymbols sources =
      sources.foldl (fun bag source => bag.absorb (source.getD ∅)) ∅ := by
  simp only [mergeWithSymbols, mergeKeys, Bool.and_true, List.filter_flatMap, List.foldl_flatMap]
  rfl

private theorem find?_foldl_absorb {sources : List (Option (Bag α))} {key : Key}
    (hidden : ∀ source, some source ∈ sources → source.isEnumerable key = false) (bag : Bag α) :
    (sources.foldl (fun bag source => bag.absorb (source.getD ∅)) bag).find? key =
      bag.find? key := by
  induction sources generalizing bag with
  | nil => rfl
  | cons first sources ih =>
      have rest := ih fun source member => hidden source (List.mem_cons_of_mem _ member)
      rw [List.foldl_cons, rest]
      cases first with
      | none => rfl
      | some source =>
          rw [Option.getD_some, find?_absorb, hidden source List.mem_cons_self]
          rfl

/-- The last source that shows a key decides what is found under it. -/
theorem find?_mergeWithSymbols {earlier later : List (Option (Bag α))} {source : Bag α} {key : Key}
    (shown : source.isEnumerable key = true)
    (hidden : ∀ other, some other ∈ later → other.isEnumerable key = false) :
    (mergeWithSymbols (earlier ++ some source :: later)).find? key = source.find? key := by
  rw [mergeWithSymbols_eq_foldl, List.foldl_append, List.foldl_cons, find?_foldl_absorb hidden,
    Option.getD_some, find?_absorb, if_pos shown]

private theorem keys_mergeWithSymbols (sources : List (Option (Bag α))) :
    (mergeWithSymbols sources).keys =
      (sources.flatMap fun source => (source.getD ∅).shownKeys).eraseDups := by
  simp only [mergeWithSymbols, mergeKeys, Bool.and_true]
  refine (keys_foldl_put _).trans ?_
  rw [List.filter_flatMap, List.map_flatMap]
  congr 1
  apply List.flatMap_congr
  intro source _
  exact (shownKeys_eq _).symm

private theorem filter_putBy (accept : Key → Bool) (entry : Entry α) (entries : List (Entry α)) :
    (putBy Entry.key entry entries).filter (fun entry => accept entry.key) =
      if accept entry.key then putBy Entry.key entry (entries.filter fun entry => accept entry.key)
      else entries.filter fun entry => accept entry.key := by
  induction entries with
  | nil => cases accepted : accept entry.key <;> simp [putBy, accepted]
  | cons other rest ih =>
      by_cases here : other.key = entry.key
      · cases accepted : accept entry.key <;> simp [putBy, here, accepted]
      · simp only [putBy, if_neg here, List.filter_cons, ih]
        split
        · split
          · simp [putBy, here]
          · rfl
        · rfl

theorem filter_foldl_put (accept : Key → Bool) (entries : List (Entry α)) (bag : Bag α) :
    (entries.foldl put bag).entries.filter (fun entry => accept entry.key) =
      ((entries.filter fun entry => accept entry.key).foldl put
        (bag.filter fun entry => accept entry.key)).entries := by
  induction entries generalizing bag with
  | nil => exact (entries_filter ..).symm
  | cons entry entries ih =>
      have first : (bag.put entry).filter (fun entry => accept entry.key) =
          if accept entry.key then (bag.filter fun entry => accept entry.key).put entry
          else bag.filter fun entry => accept entry.key := by
        apply ext
        rw [entries_filter, entries_put, filter_putBy]
        split <;> simp
      rw [List.foldl_cons, ih, first, List.filter_cons]
      split <;> rfl

private theorem entries_mergeKeys (accept : Key → Bool) (sources : List (Option (Bag α))) :
    (mergeKeys accept sources).entries =
      (mergeWithSymbols sources).entries.filter fun entry => accept entry.key := by
  simp only [mergeWithSymbols, mergeKeys, Bool.and_true]
  rw [filter_foldl_put, List.filter_filter]
  simp only [Bool.and_comm]
  rfl

/-- Merging is a union of bags in which the last value of a key wins and its first position stays.
The keys are those that some source shows, each once, in the order in which they are first shown; a
key holds what the last source that shows it holds, whatever is hidden under it elsewhere; nothing
is hidden in the result; and without symbols the result is the same restricted to named keys. -/
theorem merge_unites_shown_entries (sources : List (Option (Bag α))) :
    ((∀ key, key ∈ (mergeWithSymbols sources).keys ↔
        ∃ source, some source ∈ sources ∧ source.isEnumerable key = true) ∧
      (mergeWithSymbols sources).keys.Nodup ∧
      (mergeWithSymbols sources).keys =
        (sources.flatMap fun source => (source.getD ∅).shownKeys).eraseDups) ∧
    (∀ earlier source later key, sources = earlier ++ some source :: later →
      source.isEnumerable key = true →
      (∀ other, some other ∈ later → other.isEnumerable key = false) →
      (mergeWithSymbols sources).value? key = source.value? key) ∧
    (∀ entry ∈ (mergeWithSymbols sources).entries, entry.enumerable = true) ∧
    (merge sources).entries =
      (mergeWithSymbols sources).entries.filter fun entry => entry.key.isNamed := by
  refine ⟨⟨?_, nodup_keys _, keys_mergeWithSymbols sources⟩, ?_, ?_,
    entries_mergeKeys Key.isNamed sources⟩
  · intro key
    rw [keys_mergeWithSymbols, List.mem_eraseDups, List.mem_flatMap]
    constructor
    · rintro ⟨source, listed, shown⟩
      cases source with
      | none => cases shown
      | some source => exact ⟨source, listed, mem_shownKeys.mp shown⟩
    · rintro ⟨source, listed, shown⟩
      exact ⟨some source, listed, mem_shownKeys.mpr shown⟩
  · rintro earlier source later key rfl shown hidden
    rw [value?, value?, find?_mergeWithSymbols shown hidden]
  · intro entry member
    exact (mem_mergeKeys member).1

def defaultHeading : Bag Nat :=
  ((Bag.empty.insert "level" 1).insertSymbol "origin" 2).insertHidden (.named "note") 3

def givenHeading : Bag Nat :=
  (Bag.empty.insert "id" 4).insert "level" 5

def notedHeading : Bag Nat :=
  (Bag.empty.insertHidden (.named "level") 6).insert "note" 7

theorem merge_unites_headings :
    (mergeWithSymbols [some defaultHeading, none, some givenHeading, some notedHeading]).keys =
      [.named "level", .symbol "origin", .named "id", .named "note"] ∧
    (mergeWithSymbols [some defaultHeading, none, some givenHeading, some notedHeading]).value?
      (.named "level") = some 5 ∧
    (merge [some defaultHeading, none, some givenHeading, some notedHeading]).keys =
      [.named "level", .named "id", .named "note"] := by
  obtain ⟨⟨-, -, keys⟩, last, -, named⟩ := merge_unites_shown_entries
    [some defaultHeading, none, some givenHeading, some notedHeading]
  refine ⟨keys.trans rfl, ?_, (congrArg (List.map Entry.key) named).trans rfl⟩
  refine last [some defaultHeading, none] givenHeading [some notedHeading] (.named "level") rfl rfl ?_
  simp only [List.mem_singleton, Option.some.injEq, forall_eq]
  rfl

end Bag
end Quire
