import Quire.Cli.Disk

set_option autoImplicit false

/-!
Writing to a disk puts a file in one place and changes nothing else.

The path that was written leads to the same place afterwards: it was followed through directories
and symbolic links only, and the file takes the place of neither.
-/

namespace Quire.Cli.Disk

private theorem listing_from (bytes : ByteArray) (position : Nat) (listed : List UInt8) :
    ByteArray.toList.loop bytes position listed =
      listed.reverse ++ bytes.data.toList.drop position := by
  fun_induction ByteArray.toList.loop bytes position listed with
  | case1 position listed inside ih =>
      have next : bytes.data.toList.drop position =
          bytes.get! position :: bytes.data.toList.drop (position + 1) := by
        rw [List.drop_eq_getElem_cons (by simpa using inside)]
        simp [ByteArray.get!, inside]
      rw [ih, next, List.reverse_cons, List.append_assoc, List.singleton_append]
  | case2 position listed outside =>
      rw [List.drop_of_length_le (by simpa using outside), List.append_nil]

private theorem decode_toUTF8 (content : String) : decode content.toUTF8.toList = .ok content := by
  have listed : content.toUTF8.toList = content.toUTF8.data.toList := listing_from _ 0 []
  have bytes : content.toUTF8.toList.toByteArray = content.toUTF8 := by
    apply ByteArray.ext
    apply Array.toList_inj.mp
    rw [List.toList_data_toByteArray, listed]
  have valid : content.toUTF8.IsValidUTF8 := content.isValidUTF8
  simp only [decode, bytes, String.fromUTF8?, dif_pos valid]
  rfl

variable {disk written : Disk} {creating : Bool} {start place other : Place} {parts : List String}
  {path content : String} {contents : List UInt8}

section Putting

variable {within : disk.Within place} {free : disk.kind? place ≠ some .directory}

private theorem kind?_put : (disk.put place contents within free).kind? other =
    if other = place then some (.file contents) else disk.kind? other := rfl

private theorem kind?_put_of_passage {kind : Kind} (there : disk.kind? other = some kind)
    (passage : ∀ contents, kind ≠ .file contents)
    (unlinked : ∀ target, disk.kind? place ≠ some (.link target)) :
    (disk.put place contents within free).kind? other = some kind := by
  rw [kind?_put, if_neg, there]
  rintro rfl
  cases kind with
  | file contents => exact passage contents rfl
  | directory => exact free there
  | link target => exact unlinked target there

/-- A walk that does not fail goes the same way after a file has been put in a place. -/
theorem walk_put {outcome : Walk} (walked : disk.walk creating start parts = outcome)
    (went : ∀ error, outcome ≠ .failed error)
    (unlinked : ∀ target, disk.kind? place ≠ some (.link target)) :
    (disk.put place contents within free).walk false start parts = outcome := by
  subst walked
  have allows (other : Place) : (disk.put place contents within free).refusal? .enter other =
      disk.refusal? .enter other := rfl
  fun_induction walk disk creating start parts with
  | case1 => rfl
  | case2 start rest ih => simp only [walk, if_pos, ih went]
  | case3 => exact absurd rfl (went _)
  | case4 start rest allowed _ ih => simp [walk, allows, allowed, ih went]
  | case5 start rest allowed _ _ ih => simp [walk, allows, allowed, ih went]
  | case6 => exact absurd rfl (went _)
  | case7 => exact absurd rfl (went _)
  | case8 start part rest named allowed notHere notAbove _ short there ih =>
      have still : (disk.put place contents within free).kind? (start ++ [part]) =
          some .directory := kind?_put_of_passage there (by simp) unlinked
      simp [walk, named, allows, allowed, notHere, notAbove, short, still, ih went]
  | case9 start part rest named allowed notHere notAbove _ short target there =>
      have still : (disk.put place contents within free).kind? (start ++ [part]) =
          some (.link target) := kind?_put_of_passage there (by simp) unlinked
      simp [walk, named, allows, allowed, notHere, notAbove, short, still]
  | case10 start part rest named allowed notHere notAbove _ short previous there last =>
      by_cases same : start ++ [part] = place
      · simp [walk, named, allows, allowed, notHere, notAbove, short, last, kind?_put, same]
      · simp [walk, named, allows, allowed, notHere, notAbove, short, last, kind?_put, same, there]
  | case11 => exact absurd rfl (went _)
  | case12 start part rest named allowed notHere notAbove _ short missing last =>
      by_cases same : start ++ [part] = place
      · simp [walk, named, allows, allowed, notHere, notAbove, short, last, kind?_put, same]
      · simp [walk, named, allows, allowed, notHere, notAbove, short, last, kind?_put, same,
          missing]
  | case13 => exact absurd rfl (went _)

private theorem resolve_put {links : Nat} (resolved : disk.resolve creating links start parts = .ok other)
    (unlinked : ∀ target, disk.kind? place ≠ some (.link target)) :
    (disk.put place contents within free).resolve false links start parts = .ok other := by
  fun_induction resolve disk creating links start parts with
  | case1 links start parts arrived walked =>
      cases resolved
      unfold resolve
      rw [walk_put walked (by simp) unlinked]
  | case2 => cases resolved
  | case3 => cases resolved
  | case4 start parts directory target rest walked links ih =>
      unfold resolve
      rw [walk_put walked (by simp) unlinked]
      exact ih resolved

private theorem place_put (leads : disk.place creating path = .ok other)
    (unlinked : ∀ target, disk.kind? place ≠ some (.link target)) :
    (disk.put place contents within free).place false path = .ok other := by
  unfold Disk.place at leads ⊢
  split at leads
  · cases leads
  · exact resolve_put leads unlinked

end Putting

def Accepts (disk : Disk) (path : String) : Prop :=
  ∃ place, disk.place true path = .ok place ∧ disk.kind? place ≠ some .directory ∧
    disk.refusal? .write place = none

private theorem write_eq_ok_iff :
    disk.write path content = .ok written ↔
      ∃ place within free, disk.place true path = .ok place ∧ disk.refusal? .write place = none ∧
        written = disk.put place content.toUTF8.toList within free := by
  constructor
  · intro wrote
    unfold write at wrote
    split at wrote
    · cases wrote
    next place leads =>
      split at wrote
      · cases wrote
      next free =>
        split at wrote
        · cases wrote
        next allowed =>
          cases wrote
          exact ⟨place, (place_sound leads).1, free, leads, allowed, rfl⟩
  · intro possible
    obtain ⟨place, within, free, leads, allowed, rfl⟩ := possible
    unfold write
    split
    next error failed => simp [leads] at failed
    next other leads' =>
      cases leads.symm.trans leads'
      rw [dif_neg free, allowed]

theorem accepts_iff : disk.Accepts path ↔ ∃ written, disk.write path content = .ok written := by
  constructor
  · intro accepted
    obtain ⟨place, leads, free, allowed⟩ := accepted
    exact ⟨_, write_eq_ok_iff.mpr ⟨place, (place_sound leads).1, free, leads, allowed, rfl⟩⟩
  · intro writes
    obtain ⟨written, wrote⟩ := writes
    obtain ⟨place, -, free, leads, allowed, -⟩ := write_eq_ok_iff.mp wrote
    exact ⟨place, leads, free, allowed⟩

/-- The file that a path leads to receives a text, and nothing else changes. -/
def Receives (disk written : Disk) (path content : String) : Prop :=
  ∃ place, disk.place true path = .ok place ∧
    (written.read path = match disk.refusal? .read place with
      | none => .ok content
      | some error => .error error) ∧
    written.here = disk.here ∧ written.refusal? = disk.refusal? ∧
    ∀ other, written.kind? other =
      if other = place then some (.file content.toUTF8.toList) else disk.kind? other

theorem receives_of_write (wrote : disk.write path content = .ok written) :
    disk.Receives written path content := by
  obtain ⟨place, within, free, leads, -, rfl⟩ := write_eq_ok_iff.mp wrote
  refine ⟨place, leads, ?_, rfl, rfl, fun other => rfl⟩
  have still : (disk.put place content.toUTF8.toList within free).place false path = .ok place :=
    place_put leads (place_sound leads).2
  have there : (disk.put place content.toUTF8.toList within free).kind? place =
      some (.file content.toUTF8.toList) := if_pos rfl
  have refuses : (disk.put place content.toUTF8.toList within free).refusal? .read place =
      disk.refusal? .read place := rfl
  cases refused : disk.refusal? .read place with
  | none => simp only [read, still, bind, Except.bind, there, refuses, refused, decode_toUTF8]
  | some error => simp only [read, still, bind, Except.bind, there, refuses, refused]

end Quire.Cli.Disk
