import Quire.Node
import Quire.RenderError

set_option autoImplicit false

/-!
Computations that may fail and that leave a trace of what they did. A failed computation keeps the
steps it made before it failed. A pass is such a computation that also numbers the elements it
makes.
-/

namespace Quire

inductive Step where
  | merged (count : Nat)
  | invoked (component : Component)
  | materialized (tag : String) (id : Nat) (handle : Option Handle)
  deriving DecidableEq

structure Expansion (α : Type) where
  steps : List Step
  result : Except RenderError α

namespace Expansion

variable {α β : Type}

def ofResult (result : Except RenderError α) : Expansion α :=
  ⟨[], result⟩

def fail (error : RenderError) : Expansion α :=
  ofResult (.error error)

def record (steps : List Step) : Expansion Unit :=
  ⟨steps, .ok ()⟩

protected def pure (value : α) : Expansion α :=
  ofResult (.ok value)

/-- Runs a second computation on the result of a first; a failure skips the second. -/
protected def bind (first : Expansion α) (next : α → Expansion β) : Expansion β :=
  match first.result with
  | .ok value =>
      let second := next value
      ⟨first.steps ++ second.steps, second.result⟩
  | .error error => ⟨first.steps, .error error⟩

instance : Monad Expansion where
  pure := Expansion.pure
  bind := Expansion.bind

end Expansion

/-- A computation that numbers the elements it makes. It starts with the id of the next element and
hands on the id after its last one. -/
abbrev Pass := StateT Nat Expansion

namespace Pass

variable {α β : Type}

def takeId : Pass Nat :=
  modifyGet fun next => (next, next + 1)

def concatMap (expand : β → Pass (List α)) : List β → Pass (List α)
  | [] => pure []
  | item :: items => do
      let first ← expand item
      let rest ← concatMap expand items
      return first ++ rest

end Pass
end Quire
