import Quire.Page.GettingStarted

set_option autoImplicit false

/-!
The pages that come with the site.
-/

namespace Quire.Page

def bundled : List Page := [GettingStarted.page]

def find? (key : String) : Option Page :=
  bundled.find? fun page => page.answersTo key

end Quire.Page
