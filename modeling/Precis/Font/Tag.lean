import Precis.Font.Size
import Precis.Text.Numeral
import Precis.Unicode.Digit

/-!
The tagged stream. A tag `[index size]` stands in front of every run of text that is set in one size
of ten points or more; the run ends at the next opening bracket. A size has two or three digits
before its point and at least one behind it.
-/

namespace Precis

/-- A run of text with the size that it is set in. -/
structure Span where
  index : Nat
  size : FontSize
  text : Text
deriving DecidableEq

/-- A tag as it is written, and the run behind it. -/
structure Tag where
  index : Text
  whole : Text
  fraction : Text
  text : Text
deriving DecidableEq

namespace Tag

def render (tag : Tag) : Text :=
  '[' :: (tag.index ++ ' ' :: (tag.whole ++ '.' :: (tag.fraction ++ ']' :: tag.text)))

/-- The digits that a text starts with and what follows the character that has to stand behind
them. -/
def digitsBefore? (stop : Char) (t : Text) : Option (Text × Text) :=
  match t.dropWhile Unicode.isDigit with
  | [] => none
  | c :: rest => if c = stop then some (t.takeWhile Unicode.isDigit, rest) else none

/-- The number of digits that a tag needs in each place. -/
def isWellFormed (tag : Tag) : Bool :=
  !tag.index.isEmpty && (tag.whole.length == 2 || tag.whole.length == 3) && !tag.fraction.isEmpty

/-- Reads the tag that a text starts with and the run behind it, and leaves what follows them. The
digits may be of any script. -/
def read? : Text → Option (Tag × Text)
  | '[' :: t => do
    let (index, t) ← digitsBefore? ' ' t
    let (whole, t) ← digitsBefore? '.' t
    let (fraction, t) ← digitsBefore? ']' t
    let tag : Tag := ⟨index, whole, fraction, t.takeWhile (· != '[')⟩
    if tag.isWellFormed then some (tag, t.dropWhile (· != '[')) else none
  | _ => none

theorem eq_of_digitsBefore? {stop : Char} {t digits rest : Text}
    (h : digitsBefore? stop t = some (digits, rest)) : t = digits ++ stop :: rest := by
  unfold digitsBefore? at h
  split at h
  · simp at h
  · next c left hd =>
    split at h
    · next hc =>
      obtain ⟨rfl, rfl⟩ := Prod.mk.inj (Option.some.inj h)
      rw [← hc, ← hd, List.takeWhile_append_dropWhile]
    · simp at h

theorem eq_of_read? {t rest : Text} {tag : Tag} (h : read? t = some (tag, rest)) :
    t = tag.render ++ rest := by
  unfold read? at h
  split at h
  · next t =>
    obtain ⟨⟨index, t₁⟩, h₁, h⟩ := Option.bind_eq_some_iff.1 h
    obtain ⟨⟨whole, t₂⟩, h₂, h⟩ := Option.bind_eq_some_iff.1 h
    obtain ⟨⟨fraction, t₃⟩, h₃, h⟩ := Option.bind_eq_some_iff.1 h
    rw [eq_of_digitsBefore? h₁, eq_of_digitsBefore? h₂, eq_of_digitsBefore? h₃]
    simp only [Option.ite_none_right_eq_some, Option.some.injEq, Prod.mk.injEq] at h
    obtain ⟨-, rfl, rfl⟩ := h
    simp [render]
  · simp at h

theorem length_of_read? {t rest : Text} {tag : Tag} (h : read? t = some (tag, rest)) :
    rest.length < t.length := by
  rw [eq_of_read? h]
  simp only [render, List.length_append, List.length_cons]
  omega

/-- The nearest size to the decimal number that is written, if its digits are ASCII digits. -/
def size? (tag : Tag) : Option FontSize :=
  if (tag.whole ++ tag.fraction).all Char.isDigit then
    some (FontSize.nearest (Text.valueOfDigits (tag.whole ++ tag.fraction))
      (Nat.pow 10 tag.fraction.length))
  else none

def index? (tag : Tag) : Option Nat :=
  (Text.toNat? tag.index).filter fun n => decide (n < UInt64.size)

def span? (tag : Tag) : Option Span :=
  match tag.index?, tag.size? with
  | some index, some size => if size.isFinite then some ⟨index, size, tag.text⟩ else none
  | _, _ => none

end Tag

namespace Span

/-- All spans in order. The search for tags goes on behind the run of one that was found, whether or
not its numbers can be read. -/
def scan : Text → List Span
  | [] => []
  | c :: t =>
      match _h : Tag.read? (c :: t) with
      | some (tag, rest) => tag.span?.toList ++ scan rest
      | none => scan t
termination_by t => t.length
decreasing_by
  · exact Tag.length_of_read? _h
  · exact Nat.lt_succ_self t.length

def sortedSizes (spans : List Span) : List FontSize :=
  (spans.map Span.size).mergeSort fun a b => decide (b.totalRank ≤ a.totalRank)

/-- The largest sizes that differ as numbers, largest first. -/
def largestSizes (spans : List Span) (n : Nat) : List FontSize :=
  (FontSize.dropRepeats (sortedSizes spans)).take n

end Span
end Precis
