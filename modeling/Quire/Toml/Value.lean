import Quire.Number.Rounding

set_option autoImplicit false

/-!
TOML values.
-/

namespace Quire.Toml

inductive Value where
  | text (content : String)
  | integer (value : Int)
  | float (value : Number)
  /-- A number that is refused once somebody asks for it: a float that no finite number is near
  enough to, or what starts like an integer and goes on as none. -/
  | unreadable
  | bool (value : Bool)
  | moment (content : String)
  | array (items : List Value)
  | table (entries : List (String × Value))

namespace Value

instance : Inhabited Value := ⟨.unreadable⟩

def isReadable (value : Int) : Bool :=
  -Int.pow 2 127 ≤ value && value < Int.pow 2 128

mutual

/-- Whether every number in a value is in range. The values of unknown keys must be, too. -/
def inRange : Value → Bool
  | .integer value => isReadable value
  | .unreadable => false
  | .text _ | .float _ | .bool _ | .moment _ => true
  | .array items => inRangeItems items
  | .table entries => inRangeEntries entries
termination_by structural value => value

def inRangeItems : List Value → Bool
  | [] => true
  | item :: items => item.inRange && inRangeItems items
termination_by structural items => items

def inRangeEntries : List (String × Value) → Bool
  | [] => true
  | (_, value) :: entries => value.inRange && inRangeEntries entries
termination_by structural entries => entries

end

end Value

def sortEntries {α : Type} (entries : List (String × α)) : List (String × α) :=
  entries.mergeSort fun left right => left.1 ≤ right.1

end Quire.Toml
