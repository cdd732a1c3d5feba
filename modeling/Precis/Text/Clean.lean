import Precis.Text.Link
import Precis.Unicode.CompatibilityForm
import Precis.Unicode.Unprintable

/-!
Texts made fit for display. A clean text has no link, no unprintable character and no white space
but single spaces between its words.
-/

namespace Precis.Text

def blankUnprintable (t : Text) : Text :=
  t.map fun c => if Unicode.isUnprintable c then ' ' else c

def clean (t : Text) : Text :=
  t.dropLinks.blankUnprintable.collapse

/-- What decoding writes for bytes that are no text. -/
def replacement : Char := '\uFFFD'

def dropReplacements (t : Text) : Text :=
  t.filter fun c => c != replacement

/-- Reading order of a text that was captured from right to left: the characters turned round,
presentation forms resolved. -/
def logicalOrder (t : Text) : Text :=
  Unicode.compatibilityForm t.reverse

end Precis.Text
