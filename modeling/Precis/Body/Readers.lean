import Precis.Body.Basic
import Precis.Html.Layout

/-!
The readers that the program is run with.
-/

namespace Precis.Body

/-- No PDF is read: there is no reader for its bytes. -/
def refusePdf (_ : Bytes) : Except Error Text :=
  .error (.extract "no reader for PDF bodies".toList)

/-- Pages are laid out on lines of 120 characters. -/
def standardReaders : Readers :=
  ⟨refusePdf, Html.render 120⟩

end Precis.Body
