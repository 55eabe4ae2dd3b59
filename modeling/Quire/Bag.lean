set_option autoImplicit false

/-!
Property bags: ordered entries under named and symbol keys.

A key keeps the position of its first write and takes the value and visibility of its last.
Entries can be hidden; merging and exclusion only pass on what is enumerable.
-/

namespace Quire

/-- The key of a property. A named and a symbol key of the same name are different keys. -/
inductive Key where
  | named (name : String)
  | symbol (name : String)
  deriving DecidableEq

namespace Key

def name : Key → String
  | .named name | .symbol name => name

def isNamed : Key → Bool
  | .named _ => true
  | .symbol _ => false

def text : Key → String
  | .named name => name
  | .symbol name => "Symbol(" ++ name ++ ")"

end Key

section Putting

variable {κ β : Type} [DecidableEq κ] {key : β → κ}

def putBy (key : β → κ) (item : β) : List β → List β
  | [] => [item]
  | other :: rest => if key other = key item then item :: rest else other :: putBy key item rest

theorem map_putBy (item : β) (items : List β) :
    (putBy key item items).map key =
      if key item ∈ items.map key then items.map key else items.map key ++ [key item] := by
  induction items with
  | nil => rfl
  | cons other rest ih =>
      by_cases here : key other = key item
      · simp [putBy, here]
      · have elsewhere : key item ≠ key other := fun same => here same.symm
        simp only [putBy, if_neg here, List.map_cons, List.mem_cons, elsewhere, false_or, ih]
        split <;> rfl

theorem nodup_putBy {items : List β} (distinct : (items.map key).Nodup) (item : β) :
    ((putBy key item items).map key).Nodup := by
  rw [map_putBy]
  split
  · exact distinct
  · rename_i free
    refine List.nodup_append.mpr ⟨distinct, by simp, ?_⟩
    rintro held present other last rfl
    rw [List.mem_singleton] at last
    exact free (last ▸ present)

end Putting

/-- A property: its value, and whether it takes part in merging and listing. -/
structure Entry (α : Type) where
  key : Key
  value : α
  enumerable : Bool

structure Slot where
  key : Key
  enumerable : Bool
  deriving DecidableEq

def Entry.slot {α : Type} (entry : Entry α) : Slot :=
  ⟨entry.key, entry.enumerable⟩

/-- An ordered bag of properties: the slots, no key in two of them, and a value for each. Values are
kept apart from the slots, so that they can hold bags themselves. -/
structure Bag (α : Type) where
  slots : List Slot
  distinct : (slots.map Slot.key).Nodup
  value : Fin slots.length → α

namespace Bag

variable {α : Type}

def fill : (slots : List Slot) → (Fin slots.length → α) → List (Entry α)
  | [], _ => []
  | slot :: slots, value =>
      ⟨slot.key, value ⟨0, Nat.succ_pos _⟩, slot.enumerable⟩ :: fill slots fun i => value i.succ

def entries (bag : Bag α) : List (Entry α) :=
  fill bag.slots bag.value

def ofEntries (entries : List (Entry α)) (distinct : (entries.map Entry.key).Nodup) : Bag α where
  slots := entries.map Entry.slot
  distinct := by
    rw [List.map_map]
    exact distinct
  value i := (entries.get (i.cast (List.length_map ..))).value

theorem map_slot_fill (slots : List Slot) (value : Fin slots.length → α) :
    (fill slots value).map Entry.slot = slots := by
  induction slots with
  | nil => rfl
  | cons slot slots ih =>
      rw [fill, List.map_cons, ih]
      rfl

theorem value_of_fill {slots : List Slot} {left right : Fin slots.length → α}
    (same : fill slots left = fill slots right) : left = right := by
  induction slots with
  | nil => exact funext fun i => i.elim0
  | cons slot slots ih =>
      injection same with first rest
      injection first with _ first _
      funext i
      cases i using Fin.cases with
      | zero => exact first
      | succ i => exact congrFun (ih rest) i

@[ext]
theorem ext {left right : Bag α} (same : left.entries = right.entries) : left = right := by
  obtain ⟨slots, distinct, value⟩ := left
  obtain ⟨slots', distinct', value'⟩ := right
  obtain rfl : slots = slots' := by
    rw [← map_slot_fill slots value, ← map_slot_fill slots' value']
    exact congrArg (List.map Entry.slot) same
  obtain rfl : value = value' := value_of_fill same
  rfl

theorem fill_map_slot (entries : List (Entry α)) :
    (fill (entries.map Entry.slot) fun i =>
      (entries.get (i.cast (List.length_map ..))).value) = entries := by
  induction entries with
  | nil => rfl
  | cons entry entries ih => exact congrArg (List.cons entry) ih

@[simp]
theorem entries_ofEntries (entries : List (Entry α)) (distinct : (entries.map Entry.key).Nodup) :
    (ofEntries entries distinct).entries = entries :=
  fill_map_slot entries

def empty : Bag α := ofEntries [] List.nodup_nil

instance : EmptyCollection (Bag α) := ⟨empty⟩
instance : Inhabited (Bag α) := ⟨empty⟩

def keys (bag : Bag α) : List Key :=
  bag.entries.map Entry.key

theorem nodup_keys (bag : Bag α) : bag.keys.Nodup := by
  have slots : bag.keys = bag.slots.map Slot.key := by
    rw [← map_slot_fill bag.slots bag.value, List.map_map]
    rfl
  rw [slots]
  exact bag.distinct

def put (bag : Bag α) (entry : Entry α) : Bag α :=
  ofEntries (putBy Entry.key entry bag.entries) (nodup_putBy bag.nodup_keys entry)

def filter (bag : Bag α) (keep : Entry α → Bool) : Bag α :=
  ofEntries (bag.entries.filter keep)
    (bag.nodup_keys.sublist (List.filter_sublist.map Entry.key))

@[simp]
theorem entries_put (bag : Bag α) (entry : Entry α) :
    (bag.put entry).entries = putBy Entry.key entry bag.entries :=
  entries_ofEntries ..

@[simp]
theorem entries_filter (bag : Bag α) (keep : Entry α → Bool) :
    (bag.filter keep).entries = bag.entries.filter keep :=
  entries_ofEntries ..

def insert (bag : Bag α) (name : String) (value : α) : Bag α :=
  bag.put ⟨.named name, value, true⟩

def insertSymbol (bag : Bag α) (name : String) (value : α) : Bag α :=
  bag.put ⟨.symbol name, value, true⟩

def insertHidden (bag : Bag α) (key : Key) (value : α) : Bag α :=
  bag.put ⟨key, value, false⟩

def ofList (properties : List (String × α)) : Bag α :=
  properties.foldl (fun bag property => bag.insert property.1 property.2) empty

def find? (bag : Bag α) (key : Key) : Option (Entry α) :=
  bag.entries.find? fun entry => entry.key == key

def value? (bag : Bag α) (key : Key) : Option α :=
  (bag.find? key).map Entry.value

def get? (bag : Bag α) (name : String) : Option α :=
  bag.value? (.named name)

def contains (bag : Bag α) (name : String) : Bool :=
  (bag.get? name).isSome

def isEnumerable (bag : Bag α) (key : Key) : Bool :=
  (bag.find? key).any Entry.enumerable

def size (bag : Bag α) : Nat :=
  bag.slots.length

theorem length_entries (bag : Bag α) : bag.entries.length = bag.size := by
  rw [← List.length_map Entry.slot, entries, map_slot_fill]
  rfl

def isEmpty (bag : Bag α) : Bool :=
  bag.slots.isEmpty

def matchesAll (others : Bag α) : (slots : List Slot) → (Fin slots.length → α → Bool) → Bool
  | [], _ => true
  | slot :: slots, test =>
      (match others.find? slot.key with
        | some other => slot.enumerable == other.enumerable && test ⟨0, Nat.succ_pos _⟩ other.value
        | none => false) && others.matchesAll slots fun i => test i.succ

def named (bag : Bag α) : List (String × α) :=
  bag.entries.filterMap fun entry =>
    match entry.key with
    | .named name => if entry.enumerable then some (name, entry.value) else none
    | .symbol _ => none

/-- Writes, source by source, every enumerable entry whose key is accepted. An absent source
contributes nothing. -/
def mergeKeys (accept : Key → Bool) (sources : List (Option (Bag α))) : Bag α :=
  let entries := sources.flatMap fun source => (source.getD empty).entries
  (entries.filter fun entry => entry.enumerable && accept entry.key).foldl put empty

def merge (sources : List (Option (Bag α))) : Bag α :=
  mergeKeys Key.isNamed sources

def mergeWithSymbols (sources : List (Option (Bag α))) : Bag α :=
  mergeKeys (fun _ => true) sources

/-- The enumerable properties whose names are not excluded. Named and symbol keys are excluded
alike. -/
def without (bag : Bag α) (names : List String) : Bag α :=
  bag.filter fun entry => entry.enumerable && !names.contains entry.key.name

end Bag
end Quire
