import Precis.Font.Tag
import Precis.Heading.Basic
import Precis.Settings
import Precis.Text.Clean

/-!
The heading of a page from the spans in its largest sizes. Spans are taken in order until there are
enough of them and they have enough words; an overlong one is cut. Where the size changes and more
than one word follows, a dash sets the subtitle off.
-/

namespace Precis

/-- A heading as far as it is put together. -/
structure HeadingDraft where
  text : Text := []
  fragments : Nat := 0
  words : Nat := 0
  lastSize : Option FontSize := none

namespace HeadingSettings

variable (s : HeadingSettings)

def keptWords (span : Span) : List Text :=
  let words := Text.words span.text
  if s.maxFragmentWords.toNat < words.length then words.take (s.maxFragmentWords.toNat - 1)
  else words

/-- The text of a span in the heading: as it stands, unless it is cut. -/
def keptText (span : Span) : Text :=
  if s.maxFragmentWords.toNat < (Text.words span.text).length then
    Text.join [' '] (s.keptWords span)
  else Text.trim span.text

/-- What stands between a span and the text in front of it. -/
def joint (lastSize : Option FontSize) (span : Span) : Text :=
  if lastSize.any (·.same span.size) then [' ']
  else if 1 < (Text.words span.text).length then [' ', '-', ' ']
  else [' ']

/-- Enough fragments with enough words. -/
def isComplete (d : HeadingDraft) : Bool :=
  decide (s.minFragments.toNat ≤ d.fragments) && decide (s.minWords.toNat ≤ d.words)

/-- Takes a span into the heading. As long as nothing has been written, as behind spans of which no
word is kept, nothing needs to be joined. -/
def append (d : HeadingDraft) (span : Span) : HeadingDraft where
  text := d.text ++ (if d.text.isEmpty then [] else joint d.lastSize span) ++ s.keptText span
  fragments := d.fragments + 1
  words := d.words + (s.keptWords span).length
  lastSize := some span.size

/-- Passes over a span in another size than the given ones or without text. -/
def step (sizes : List FontSize) (d : HeadingDraft) (span : Span) : HeadingDraft :=
  if !sizes.any (·.same span.size) then d
  else if (Text.trim span.text).isEmpty then d
  else s.append d span

def compose (sizes : List FontSize) (d : HeadingDraft) : List Span → HeadingDraft
  | [] => d
  | span :: rest => if s.isComplete d then d else compose sizes (s.step sizes d span) rest

def headingText (spans : List Span) : Text :=
  (s.compose (Span.largestSizes spans s.fontSizes.toNat) {} spans).text.trim

def heading? (stream : Text) (language : Option Text) : Option Heading :=
  let text := s.headingText (Span.scan stream)
  if text.isEmpty then none
  else if language.any s.isRightToLeft then some ⟨text.logicalOrder, .fonts⟩
  else some ⟨text, .fonts⟩

end HeadingSettings
end Precis
