set_option autoImplicit false

/-!
Texts as parts between separators.
-/

namespace Quire.Text

/-- The runs of characters between separators. There is always one more of them than there are
separators. -/
def splitRuns (separator : Char) (characters : List Char) : List (List Char) :=
  characters.foldr
    (fun c runs => if c = separator then [] :: runs else (c :: runs.headD []) :: runs.tail) [[]]

def splitAt (separator : Char) (text : String) : List String :=
  (splitRuns separator text.toList).map String.ofList

end Quire.Text
