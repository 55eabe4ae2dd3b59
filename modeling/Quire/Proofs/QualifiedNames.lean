import Quire.Proofs.Registries
import Quire.Resolution

set_option autoImplicit false

/-!
A component that is registered for one context.

Qualified names share one space of texts with all others: `p.strong` is a name like any. Yet a name
without a dot never collides with a qualified one, and a qualified name is made of one parent and one
such child only. Hence what is registered under `p.strong` is seen by `strong` inside `p` and by no
other name without a dot, whatever it stands in.
-/

namespace Quire

section

variable {α : Type} {item : α} {before before' after after' more : List α}

private theorem nil_of_cons_eq_append_cons (last : item ∉ after)
    (same : item :: after = more ++ item :: after') : more = [] ∧ after = after' := by
  cases more with
  | nil => exact ⟨rfl, (List.cons.inj same).2⟩
  | cons first more =>
      obtain ⟨-, rfl⟩ := List.cons.inj same
      exact False.elim (last (List.mem_append_right _ List.mem_cons_self))

private theorem append_cons_inj (last : item ∉ after) (last' : item ∉ after') :
    before ++ item :: after = before' ++ item :: after' ↔ before = before' ∧ after = after' := by
  constructor
  · intro same
    rcases List.append_eq_append_iff.mp same with ⟨more, rfl, rest⟩ | ⟨more, rfl, rest⟩
    · obtain ⟨rfl, rfl⟩ := nil_of_cons_eq_append_cons last rest
      exact ⟨(List.append_nil _).symm, rfl⟩
    · obtain ⟨rfl, rfl⟩ := nil_of_cons_eq_append_cons last' rest
      exact ⟨List.append_nil _, rfl⟩
  · intro both
    rw [both.1, both.2]

end

namespace Name

def IsSimple (name : Name) : Prop :=
  '.' ∉ name.text.toList

instance (name : Name) : Decidable name.IsSimple :=
  inferInstanceAs (Decidable ('.' ∉ name.text.toList))

variable {parent outer child name : Name}

private theorem eq_iff_text_eq {left right : Name} : left = right ↔ left.text = right.text := by
  obtain ⟨text⟩ := left
  obtain ⟨text'⟩ := right
  rw [Name.mk.injEq]

private theorem toList_qualify (parent child : Name) :
    (parent.qualify child).text.toList = parent.text.toList ++ '.' :: child.text.toList := by
  simp [qualify]

private theorem qualify_ne (simple : name.IsSimple) (parent child : Name) : parent.qualify child ≠ name := by
  intro same
  apply simple
  rw [← same, toList_qualify]
  exact List.mem_append_right _ List.mem_cons_self

private theorem qualify_inj_iff (simple : name.IsSimple) (simple' : child.IsSimple) :
    outer.qualify name = parent.qualify child ↔ outer = parent ∧ name = child := by
  rw [eq_iff_text_eq, ← String.toList_inj, toList_qualify, toList_qualify,
    append_cons_inj simple simple', String.toList_inj, String.toList_inj, ← eq_iff_text_eq,
    ← eq_iff_text_eq]

example : Name.qualify ⟨"p"⟩ ⟨"a.b"⟩ = Name.qualify ⟨"p.a"⟩ ⟨"b"⟩ := by decide

end Name

namespace Registry

variable {child name : Name}

private theorem lookup?_insert_qualified (registry : Registry) (component : Component) (parent : Name)
    (simple : child.IsSimple) (simple' : name.IsSimple) (context : Option Name) :
    (registry.insert (parent.qualify child) component).lookup? name context =
      if context = some parent ∧ name = child then some component
      else registry.lookup? name context := by
  unfold lookup?
  rw [find?_insert, if_neg (Name.qualify_ne simple' parent child)]
  cases context with
  | none => simp
  | some outer =>
      simp only [Option.bind_some, find?_insert, Option.some.injEq]
      by_cases own : outer = parent ∧ name = child
      · rw [if_pos own, if_pos ((Name.qualify_inj_iff simple' simple).mpr own).symm]
        rfl
      · have apart : parent.qualify child ≠ outer.qualify name := by
          intro same
          exact own ((Name.qualify_inj_iff simple' simple).mp same.symm)
        rw [if_neg own, if_neg apart]

/-- A component that is registered for a name inside a parent is what this name stands for there, and
changes nothing for any other name or in any other context: neither what is found, nor what is made for
a plain tag, nor what is reported. For qualified names without a dot in the child have one parent and
one child, and names are no more than their texts. -/
theorem resolve_insert_qualified (registry : Registry) (component : Component) (parent : String)
    {child : String} (simple : Name.IsSimple ⟨child⟩) :
    (∀ (name : Name) (context : Option Name), name.IsSimple →
      (registry.insert ⟨parent ++ "." ++ child⟩ component).resolve (.named name) context =
        if context = some ⟨parent⟩ ∧ name = ⟨child⟩ then .ok component
        else registry.resolve (.named name) context) ∧
    (∀ outer name : Name, name.IsSimple →
      (outer.qualify name = Name.qualify ⟨parent⟩ ⟨child⟩ ↔ outer = ⟨parent⟩ ∧ name = ⟨child⟩)) ∧
    ∀ left right : Name, left = right ↔ left.text = right.text := by
  refine ⟨?_, ?_, ?_⟩
  · intro name context simple'
    have looked : (registry.insert ⟨parent ++ "." ++ child⟩ component).lookup? name context = _ :=
      lookup?_insert_qualified registry component ⟨parent⟩ simple simple' context
    simp only [resolve, looked]
    by_cases own : context = some ⟨parent⟩ ∧ name = ⟨child⟩
    · simp only [if_pos own]
    · simp only [if_neg own]
  · intro outer name simple'
    exact Name.qualify_inj_iff simple' simple
  · intro left right
    exact Name.eq_iff_text_eq

def boldWords : Registry :=
  Registry.empty.insert ⟨"strong"⟩ (.custom 1)

theorem resolve_insert_qualified_strong :
    Name.IsSimple ⟨"strong"⟩ ∧ Name.IsSimple ⟨"Missing"⟩ ∧
      (boldWords.insert ⟨"p.note" ++ "." ++ "strong"⟩ (.custom 0)).resolve (.named ⟨"strong"⟩)
        (some ⟨"p.note"⟩) = .ok (.custom 0) ∧
      (boldWords.insert ⟨"p.note" ++ "." ++ "strong"⟩ (.custom 0)).resolve (.named ⟨"strong"⟩)
        (some ⟨"note"⟩) = .ok (.custom 1) ∧
      (boldWords.insert ⟨"p.note" ++ "." ++ "strong"⟩ (.custom 0)).resolve (.named ⟨"Missing"⟩)
        (some ⟨"p.note"⟩) = .error (.unresolved ⟨"Missing"⟩) := by
  have simple : Name.IsSimple ⟨"strong"⟩ := by simp [Name.IsSimple]
  have other : Name.IsSimple ⟨"Missing"⟩ := by simp [Name.IsSimple]
  obtain ⟨frame, -, -⟩ := resolve_insert_qualified boldWords (.custom 0) "p.note" simple
  refine ⟨simple, other, ?_, ?_, ?_⟩
  · rw [frame _ _ simple, if_pos ⟨rfl, rfl⟩]
  · rw [frame _ _ simple, if_neg (by decide)]
    rfl
  · rw [frame _ _ other, if_neg (by decide)]
    rfl

end Registry
end Quire
