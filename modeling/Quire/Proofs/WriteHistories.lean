import Quire.Proofs.Merging

set_option autoImplicit false

/-!
What a bag looks like after any history of writes.

A history is read back key by key: the keys in the order of their first writes, and with each key what
its last write left. Position and content thus come from different writes, and a key that turns from
hidden to enumerable, or back, keeps its position.
-/

namespace Quire

inductive Write (α : Type) where
  | insert (name : String) (value : α)
  | insertSymbol (name : String) (value : α)
  | insertHidden (key : Key) (value : α)

namespace Write

variable {α : Type}

def apply (bag : Bag α) : Write α → Bag α
  | .insert name value => bag.insert name value
  | .insertSymbol name value => bag.insertSymbol name value
  | .insertHidden key value => bag.insertHidden key value

def entry : Write α → Entry α
  | .insert name value => ⟨.named name, value, true⟩
  | .insertSymbol name value => ⟨.symbol name, value, true⟩
  | .insertHidden key value => ⟨key, value, false⟩

def key (write : Write α) : Key :=
  write.entry.key

private theorem apply_eq_put (bag : Bag α) (write : Write α) : write.apply bag = bag.put write.entry := by
  cases write <;> rfl

def last? (writes : List (Write α)) (key : Key) : Option (Entry α) :=
  (writes.reverse.find? fun write => write.key == key).map entry

private theorem last?_append_singleton (writes : List (Write α)) (write : Write α) (key : Key) :
    last? (writes ++ [write]) key = if write.key = key then some write.entry else last? writes key := by
  unfold last?
  rw [List.reverse_append, List.reverse_singleton, List.singleton_append, List.find?_cons]
  by_cases here : write.key = key
  · simp [here]
  · rw [beq_false_of_ne here, if_neg here]

private theorem last?_of_no_later {earlier later : List (Write α)} {write : Write α}
    (done : ∀ other ∈ later, other.key ≠ write.key) :
    last? (earlier ++ write :: later) write.key = some write.entry := by
  have none : later.reverse.find? (fun other => other.key == write.key) = none := by
    simpa using done
  unfold last?
  rw [List.reverse_append, List.reverse_cons, List.append_assoc, List.find?_append, none]
  simp

private theorem key_of_last? {writes : List (Write α)} {key : Key} {entry : Entry α}
    (last : last? writes key = some entry) : entry.key = key := by
  obtain ⟨write, found, rfl⟩ := Option.map_eq_some_iff.mp last
  have matched := List.find?_some found
  exact eq_of_beq matched

private theorem isSome_last? (writes : List (Write α)) (key : Key) :
    (last? writes key).isSome = writes.any fun write => write.key == key := by
  unfold last?
  rw [Option.isSome_map, List.isSome_find?, List.any_reverse]

end Write

namespace Bag

variable {α : Type}

def ofWrites (writes : List (Write α)) : Bag α :=
  writes.foldl Write.apply ∅

private theorem ofWrites_eq_foldl_put (writes : List (Write α)) :
    ofWrites writes = (writes.map Write.entry).foldl put ∅ := by
  unfold ofWrites
  rw [List.foldl_map]
  congr 1
  funext bag write
  exact write.apply_eq_put bag

private theorem keys_ofWrites (writes : List (Write α)) :
    (ofWrites writes).keys = (writes.map Write.key).eraseDups := by
  rw [ofWrites_eq_foldl_put, keys_foldl_put, List.map_map]
  rfl

private theorem find?_ofWrites (writes : List (Write α)) (key : Key) :
    (ofWrites writes).find? key = Write.last? writes key := by
  induction writes using List.reverseRecOn with
  | nil => rfl
  | append_singleton writes write ih =>
      have extended : ofWrites (writes ++ [write]) = (ofWrites writes).put write.entry := by
        rw [ofWrites, List.foldl_append]
        exact write.apply_eq_put _
      rw [extended, find?_put, ih, Write.last?_append_singleton]
      rfl

private theorem entries_eq_filterMap (bag : Bag α) :
    bag.entries = bag.keys.filterMap bag.find? := by
  have found : bag.entries.filterMap (fun entry => bag.find? entry.key) =
      bag.entries.filterMap some :=
    List.filterMap_congr fun entry member => find?_key member
  rw [keys, List.filterMap_map]
  exact (found.trans List.filterMap_some).symm

private theorem entries_ofWrites (writes : List (Write α)) :
    (ofWrites writes).entries =
      (writes.map Write.key).eraseDups.filterMap (Write.last? writes) := by
  rw [entries_eq_filterMap, keys_ofWrites]
  exact List.filterMap_congr fun key _ => find?_ofWrites writes key

private theorem entries_ofWrites_filter (accept : Key → Bool) (writes : List (Write α)) :
    (ofWrites (writes.filter fun write => accept write.key)).entries =
      (ofWrites writes).entries.filter fun entry => accept entry.key := by
  rw [ofWrites_eq_foldl_put writes, filter_foldl_put, List.filter_map, ofWrites_eq_foldl_put]
  rfl

private theorem ofWrites_filter_eq_erase (writes : List (Write α)) (key : Key) :
    ofWrites (writes.filter fun write => write.key != key) = (ofWrites writes).erase key := by
  apply ext
  rw [erase, entries_filter]
  exact entries_ofWrites_filter (fun other => other != key) writes

private theorem named_ofWrites (writes : List (Write α)) :
    (ofWrites writes).named =
      (writes.map Write.key).eraseDups.filterMap fun key =>
        match key with
        | .named name =>
            ((Write.last? writes key).filter Entry.enumerable).map fun entry => (name, entry.value)
        | .symbol _ => none := by
  unfold named
  rw [entries_ofWrites, List.filterMap_filterMap]
  apply List.filterMap_congr
  intro key _
  cases last : Write.last? writes key with
  | none => cases key <;> rfl
  | some entry =>
      obtain ⟨own, value, enumerable⟩ := entry
      obtain rfl : own = key := Write.key_of_last? last
      cases own with
      | symbol name => rfl
      | named name => cases enumerable <;> rfl

/-- A bag after any history of writes. Its keys are distinct and stand in the order in which each was
first written, and a key holds what its last write left there, value and visibility. Writes to a named
and to a symbol key of one name do not touch each other: without the writes to one of them the bag is
the same but for that key. Every way to read the bag gives what the history says. -/
theorem ofWrites_follows_history (writes : List (Write α)) :
    ((ofWrites writes).keys.Nodup ∧
      (ofWrites writes).keys = (writes.map Write.key).eraseDups) ∧
    (∀ earlier write later, writes = earlier ++ write :: later →
      (∀ other ∈ later, other.key ≠ write.key) →
      (ofWrites writes).find? write.key = some write.entry) ∧
    (∀ name,
      ofWrites (writes.filter fun write => write.key != .symbol name) =
        (ofWrites writes).erase (.symbol name) ∧
      ofWrites (writes.filter fun write => write.key != .named name) =
        (ofWrites writes).erase (.named name)) ∧
    (ofWrites writes).entries =
      (writes.map Write.key).eraseDups.filterMap (Write.last? writes) ∧
    (ofWrites writes).size = (writes.map Write.key).eraseDups.length ∧
    (∀ key, (ofWrites writes).value? key = (Write.last? writes key).map Entry.value ∧
      (ofWrites writes).isEnumerable key = (Write.last? writes key).any Entry.enumerable) ∧
    (∀ name, (ofWrites writes).get? name = (Write.last? writes (.named name)).map Entry.value ∧
      (ofWrites writes).contains name = writes.any fun write => write.key == .named name) ∧
    (ofWrites writes).named =
      (writes.map Write.key).eraseDups.filterMap fun key =>
        match key with
        | .named name =>
            ((Write.last? writes key).filter Entry.enumerable).map fun entry => (name, entry.value)
        | .symbol _ => none := by
  refine ⟨⟨nodup_keys _, keys_ofWrites writes⟩, ?_, ?_, entries_ofWrites writes, ?_, ?_,
    ?_, named_ofWrites writes⟩
  · rintro earlier write later rfl done
    rw [find?_ofWrites, Write.last?_of_no_later done]
  · intro name
    exact ⟨ofWrites_filter_eq_erase writes _, ofWrites_filter_eq_erase writes _⟩
  · rw [← keys_ofWrites, keys, List.length_map, length_entries]
  · intro key
    rw [value?, isEnumerable, find?_ofWrites]
    exact ⟨rfl, rfl⟩
  · intro name
    rw [contains, get?, value?, find?_ofWrites, Option.isSome_map, Write.isSome_last?]
    exact ⟨rfl, rfl⟩

def rewrittenIds : List (Write Nat) :=
  [.insert "id" 1, .insertSymbol "id" 2, .insertHidden (.named "id") 3, .insert "level" 4,
    .insert "id" 5, .insertHidden (.symbol "id") 6]

theorem ofWrites_follows_rewrittenIds :
    (ofWrites rewrittenIds).keys = [.named "id", .symbol "id", .named "level"] ∧
      (ofWrites rewrittenIds).find? (.named "id") = some ⟨.named "id", 5, true⟩ ∧
      (ofWrites rewrittenIds).isEnumerable (.symbol "id") = false ∧
      (ofWrites rewrittenIds).named = [("id", 5), ("level", 4)] := by
  obtain ⟨⟨-, keys⟩, last, -, -, -, read, -, named⟩ := ofWrites_follows_history rewrittenIds
  refine ⟨keys.trans rfl, ?_, (read (.symbol "id")).2.trans rfl, named.trans rfl⟩
  refine last [.insert "id" 1, .insertSymbol "id" 2, .insertHidden (.named "id") 3,
    .insert "level" 4] (.insert "id" 5) [.insertHidden (.symbol "id") 6] rfl ?_
  intro other member
  rw [List.mem_singleton.mp member]
  exact Key.noConfusion

end Bag
end Quire
