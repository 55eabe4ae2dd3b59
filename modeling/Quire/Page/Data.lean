set_option autoImplicit false

/-!
Structured data from which page descriptions are read.

A description is a record of named fields. All fields that are present are read first, in the order
of their names, and only then are missing ones reported, in the order of the description. It may
also be a list of the values of its fields, in the order of the description; they are read before it
matters whether there is one for each.
-/

namespace Quire

inductive Data where
  | null
  | bool (value : Bool)
  | number
  | text (content : String)
  | list (items : List Data)
  | record (fields : List (String × Data))
  deriving Inhabited

namespace Data

inductive Problem where
  | missing (field : String)
  | wrongType
  deriving DecidableEq

/-- How a missing field is reported; a value of the wrong type has no message. -/
def Problem.message? : Problem → Option String
  | .missing field => some ("missing field `" ++ field ++ "`")
  | .wrongType => none

def readText : Data → Except Problem String
  | .text content => .ok content
  | _ => .error .wrongType

def readBool : Data → Except Problem Bool
  | .bool value => .ok value
  | _ => .error .wrongType

def readOptional {α : Type} (read : Data → Except Problem α) : Data → Except Problem (Option α)
  | .null => .ok none
  | data => (read data).map some

def required {α : Type} (read : Data → Except Problem α) (name : String)
    (fields : List (String × Data)) : Except Problem α :=
  match fields.lookup name with
  | some data => read data
  | none => .error (.missing name)

def optional {α : Type} (read : Data → Except Problem α) (name : String)
    (fields : List (String × Data)) : Except Problem (Option α) :=
  match fields.lookup name with
  | some data => readOptional read data
  | none => .ok none

def checkFields (known : List (String × (Data → Except Problem Unit))) :
    List (String × Data) → Except Problem Unit
  | [] => .ok ()
  | (name, data) :: fields => do
      match known.lookup name with
      | some check => check data
      | none => pure ()
      checkFields known fields

def check {α : Type} (read : Data → Except Problem α) (data : Data) : Except Problem Unit :=
  (read data).map fun _ => ()

/-- The fields of a description, all of them checked. A list stands for the record of the given
names when it has a value for each. -/
def readFields (names : List String) (known : List (String × (Data → Except Problem Unit))) :
    Data → Except Problem (List (String × Data))
  | .record fields => do
      checkFields known fields
      return fields
  | .list items => do
      let fields := names.zip items
      checkFields known fields
      if items.length = names.length then return fields else .error .wrongType
  | _ => .error .wrongType

end Data
end Quire
