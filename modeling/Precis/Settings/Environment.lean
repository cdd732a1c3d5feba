import Precis.Settings
import Precis.Text.Numeral

/-!
Settings that the environment overrides. A variable that is blank counts as unset, and so does one
that should hold a number and does not.
-/

namespace Precis

abbrev Environment := Text → Option Text

namespace Environment

variable (e : Environment)

/-- The value of a variable without the white space around it. -/
def value? (name : String) : Option Text :=
  (e name.toList).bind fun v => if v.isBlank then none else some v.trim

def number? (name : String) : Option UInt64 :=
  ((e.value? name).bind Text.toNatSigned?).bind Text.word64?

/-- A list with commas, in small letters. -/
def languages? (name : String) : Option (List Text) :=
  (e.value? name).map fun v =>
    ((v.splitOn ',').map fun l => Text.asciiLower (Text.trim l)).filter fun l => !l.isEmpty

end Environment

/-- The settings with what the environment puts in their place. -/
def Settings.withEnvironment (s : Settings) (e : Environment) : Settings where
  heading := { s.heading with
    rtlLanguages := (e.languages? "DOCGIST_RTL_LANGS").getD s.heading.rtlLanguages }
  summary := { s.summary with
    sentences := (e.number? "DOCGIST_SUMMARY_SENTENCES").getD s.summary.sentences }
  filter := { s.filter with
    textHeadingMinChars :=
      (e.number? "DOCGIST_TEXT_HEADING_MIN_CHARS").getD s.filter.textHeadingMinChars }

end Precis
