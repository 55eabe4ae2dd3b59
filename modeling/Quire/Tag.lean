set_option autoImplicit false

/-!
Element names.
-/

namespace Quire.Tag

def isInner (c : Char) : Bool :=
  c.isAlphanum || c == '-'

/-- An element name is a letter followed by letters, digits and hyphens, all ASCII. -/
def isValid (tag : String) : Bool :=
  match tag.toList with
  | [] => false
  | first :: rest => first.isAlpha && rest.all isInner

/-- An element name that starts with a lowercase letter. Other names denote components. -/
def isLowercase (tag : String) : Bool :=
  isValid tag && tag.toList.head?.any Char.isLower

end Quire.Tag
