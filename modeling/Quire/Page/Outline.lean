import Quire.Page.Data
import Quire.Value

set_option autoImplicit false

/-!
Tables of contents, as an outline of headings.
-/

namespace Quire

structure Heading where
  value : String
  id : String
  children : List Heading

namespace Heading

def line (level : Nat) (value id : String) : String :=
  String.ofList (List.replicate (2 * level) ' ') ++ "- " ++ value ++ " (#" ++ id ++ ")\n"

mutual

def outline (level : Nat) : Heading → String
  | ⟨value, id, children⟩ => line level value id ++ outlineAll (level + 1) children
termination_by structural heading => heading

def outlineAll (level : Nat) : List Heading → String
  | [] => ""
  | heading :: headings => heading.outline level ++ outlineAll level headings
termination_by structural headings => headings

end

mutual

def toValue : Heading → Value
  | ⟨value, id, children⟩ =>
      .map (Bag.ofList [("value", .text value), ("id", .text id),
        ("children", .list (toValues children))])
termination_by structural heading => heading

def toValues : List Heading → List Value
  | [] => []
  | heading :: headings => heading.toValue :: toValues headings
termination_by structural headings => headings

end

mutual

def toData : Heading → Data
  | ⟨value, id, children⟩ =>
      .record [("children", .list (toItems children)), ("id", .text id), ("value", .text value)]
termination_by structural heading => heading

def toItems : List Heading → List Data
  | [] => []
  | heading :: headings => heading.toData :: toItems headings
termination_by structural headings => headings

end

structure Fields where
  value : Option String
  id : Option String
  children : Option (List Heading)

def Fields.finish (fields : Fields) : Except Data.Problem Heading :=
  match fields.value, fields.id with
  | none, _ => .error (.missing "value")
  | some _, none => .error (.missing "id")
  | some value, some id => .ok ⟨value, id, fields.children.getD []⟩

mutual

/-- Reads a heading. As a list it has a value, an id and, if there are any, the headings below it,
which are read before something left over counts against it. -/
def ofData : Data → Except Data.Problem Heading
  | .record fields => do (← readFields fields).finish
  | .list [value, id] => do return ⟨← value.readText, ← id.readText, []⟩
  | .list (value :: id :: .list children :: others) => do
      let heading : Heading := ⟨← value.readText, ← id.readText, ← ofItems children⟩
      if others.isEmpty then return heading else .error .wrongType
  | _ => .error .wrongType
termination_by structural data => data

def ofItems : List Data → Except Data.Problem (List Heading)
  | [] => .ok []
  | data :: items => do
      let heading ← ofData data
      return heading :: (← ofItems items)
termination_by structural items => items

def readFields : List (String × Data) → Except Data.Problem Fields
  | [] => .ok ⟨none, none, none⟩
  | (name, data) :: fields => do
      let current : Fields ←
        if name = "value" then pure ⟨some (← data.readText), none, none⟩
        else if name = "id" then pure ⟨none, some (← data.readText), none⟩
        else if name = "children" then
          match data with
          | .list items => pure ⟨none, none, some (← ofItems items)⟩
          | _ => .error .wrongType
        else pure ⟨none, none, none⟩
      let rest ← readFields fields
      return ⟨current.value.or rest.value, current.id.or rest.id,
        current.children.or rest.children⟩
termination_by structural fields => fields

end

def listOfData : Data → Except Data.Problem (List Heading)
  | .list items => ofItems items
  | _ => .error .wrongType

end Heading
end Quire
