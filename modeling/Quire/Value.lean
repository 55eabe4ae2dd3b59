import Quire.Bag
import Quire.Number.Decimal
import Quire.Registry

set_option autoImplicit false

/-!
Property values and their equality.

Equality looks through lists and maps. Numbers compare numerically, so a value that holds `nan`
anywhere differs from itself; the order of a map's entries does not count; registries compare by
the identity of their components.
-/

namespace Quire

inductive Value where
  | null
  | bool (value : Bool)
  | number (value : Number)
  | text (value : String)
  | list (items : List Value)
  | map (entries : Bag Value)
  | components (registry : Registry)

abbrev Props := Bag Value

namespace Value

instance : Inhabited Value := ⟨.null⟩

/-- The text of a value where it appears in rendered text. Composite values leave none. -/
def display : Value → String
  | .null => ""
  | .bool value => if value then "true" else "false"
  | .number value => value.text
  | .text value => value
  | .list _ | .map _ | .components _ => ""

def text? : Value → Option String
  | .text value => some value
  | _ => none

def components? : Value → Option Registry
  | .components registry => some registry
  | _ => none

def isNull : Value → Bool
  | .null => true
  | _ => false

mutual

def beq : Value → Value → Bool
  | .null, other =>
      match other with
      | .null => true
      | _ => false
  | .bool value, other =>
      match other with
      | .bool value' => value == value'
      | _ => false
  | .number value, other =>
      match other with
      | .number value' => value.equal value'
      | _ => false
  | .text value, other =>
      match other with
      | .text value' => value == value'
      | _ => false
  | .list items, other =>
      match other with
      | .list items' => beqItems items items'
      | _ => false
  | .map ⟨slots, _, value⟩, other =>
      match other with
      | .map others =>
          slots.length == others.size && others.matchesAll slots fun i other => (value i).beq other
      | _ => false
  | .components registry, other =>
      match other with
      | .components registry' => registry == registry'
      | _ => false
termination_by structural value => value

def beqItems : List Value → List Value → Bool
  | [], others => others.isEmpty
  | item :: items, others =>
      match others with
      | [] => false
      | other :: others => item.beq other && beqItems items others
termination_by structural items => items

end

instance : BEq Value := ⟨beq⟩

end Value

namespace Props

/-- Equality of property bags: the same keys, equally visible, with equal values. -/
protected def beq (left right : Props) : Bool :=
  left.size == right.size && right.matchesAll left.slots fun i other => (left.value i).beq other

instance : BEq Props := ⟨Props.beq⟩

def getText? (props : Props) (name : String) : Option String :=
  (props.get? name).bind Value.text?

end Props
end Quire
