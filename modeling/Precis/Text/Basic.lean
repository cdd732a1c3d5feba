import Precis.Unicode.WhiteSpace

/-!
Texts, and how they are trimmed, split into words and lines, and joined. A text is the list of its
characters, so its length counts characters whatever their encoding.
-/

namespace Precis

abbrev Text := List Char

namespace Text

/-- White space by its Unicode property. -/
abbrev isSpace (c : Char) : Bool :=
  Unicode.isWhiteSpace c

/-- No character but white space: also the empty text. -/
def isBlank (t : Text) : Bool :=
  t.all isSpace

def trimStart (t : Text) : Text :=
  t.dropWhile isSpace

def trimEnd (t : Text) : Text :=
  (t.reverse.dropWhile isSpace).reverse

def trim (t : Text) : Text :=
  t.trimStart.trimEnd

/-- The longest runs without white space. -/
def words (t : Text) : List Text :=
  (t.splitOnP isSpace).filter fun w => !w.isEmpty

/-- Lines end at a line feed only. -/
def lines (t : Text) : List Text :=
  t.splitOn '\n'

def join (separator : Text) (ts : List Text) : Text :=
  separator.intercalate ts

/-- Words parted by one space each. -/
def collapse (t : Text) : Text :=
  join [' '] t.words

def asciiLower (t : Text) : Text :=
  t.map Char.toLower

def eqIgnoringAsciiCase (a b : Text) : Bool :=
  a.asciiLower == b.asciiLower

/-- What follows `front`, if the text starts with it. -/
def dropFront? : Text → Text → Option Text
  | [], t => some t
  | _ :: _, [] => none
  | c :: front, d :: t => if c = d then dropFront? front t else none

theorem length_of_dropFront? {front t rest : Text} (h : dropFront? front t = some rest) :
    t.length = front.length + rest.length := by
  induction front generalizing t with
  | nil => simp_all [dropFront?]
  | cons c front ih =>
      cases t with
      | nil => simp [dropFront?] at h
      | cons d t =>
          simp only [dropFront?] at h
          split at h
          · simp only [List.length_cons, ih h]; omega
          · simp at h

end Text
end Precis
