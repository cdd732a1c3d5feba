import Precis.Document.Basic
import Precis.Heading.FromText
import Precis.Sentence.Summary
import Precis.Text.Clean
import Precis.Text.Numeral

/-!
The fields of a document's index entry. A summary is made unless the entry has a description, a
heading is looked for in the text of a long PDF document without one, and lengths are recorded.
-/

namespace Precis

namespace Metadata

/-- The keys that may hold a description, the first present one of which counts. -/
def descriptionKeys : List Text :=
  [Key.summary, Key.description, Key.twitterDescription]

/-- The description that an entry has; empty if it has none. -/
def describedAs (fields : Metadata) : Text :=
  (descriptionKeys.findSome? fields.joined?).getD []

def eraseDescriptions (fields : Metadata) : Metadata :=
  descriptionKeys.foldl Metadata.erase fields

/-- The length of all values of a key together. -/
def joinedLength (fields : Metadata) (key : Text) : Nat :=
  ((fields.joined? key).getD []).length

end Metadata

namespace Document

variable (d : Document) (s : Settings)

def rawSummary : Text :=
  (s.summary.summary d.text.dropReplacements s.summary.sentences.toNat).toText

def addSummary (fields : Metadata) : Metadata :=
  if fields.describedAs.isEmpty then
    let text := d.rawSummary s
    if text.isEmpty then fields.eraseDescriptions
    else fields.eraseDescriptions.add Key.summary text.clean
  else fields

def textHeading? : Option Heading :=
  if d.isPdf && decide (s.filter.textHeadingMinChars.toNat < d.text.length) then
    s.summary.heading? d.text.dropReplacements
  else none

def addTextHeading (fields : Metadata) : Metadata :=
  if fields.contains Key.heading then fields
  else match d.textHeading? s with
    | none => fields
    | some h => fields.add Key.heading h.tagged

def addContentLength (fields : Metadata) : Metadata :=
  if fields.contains Key.contentLength || d.text.isEmpty then fields
  else fields.add Key.contentLength (Text.ofNat d.text.length)

def addLengths (fields : Metadata) : Metadata :=
  let titleLength := Text.ofNat (fields.joinedLength Key.title)
  let headingLength := Text.ofNat (fields.joinedLength Key.heading)
  let anchorLength := Text.ofNat (fields.joinedLength Key.anchor)
  ((fields.add Key.titleLength titleLength).add Key.headingLength headingLength).add
    Key.anchorLength anchorLength

def indexFields (fields : Metadata) : Metadata :=
  addLengths (d.addContentLength (d.addTextHeading s (d.addSummary s fields)))

end Document
end Precis
