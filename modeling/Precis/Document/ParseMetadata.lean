import Precis.Document.Basic
import Precis.Document.PageCount
import Precis.Heading.FromSpans

/-!
What is derived from a PDF document when it is parsed: the heading in its largest sizes, the number
of its pages, and its own date, which is preferred to the one that the server gave.
-/

namespace Precis

def Metadata.setSome (m : Metadata) (key : Text) : Option Text → Metadata
  | none => m
  | some value => m.set key value

namespace Document

def fontHeading? (d : Document) (s : HeadingSettings) : Option Text :=
  (d.taggedText.bind fun stream => s.heading? stream (d.parseMeta.get? Key.language)).map
    Heading.tagged

def pages? (d : Document) : Option Text :=
  (pageCount? (d.readerMeta.get? Key.reportedPages) d.text).map Text.ofNat

/-- The date of creation before that of the last change. -/
def date? (d : Document) : Option Text :=
  d.readerMeta.get? Key.created <|> d.readerMeta.get? Key.modified

/-- The document with what is derived from it; one that is no PDF stays as it is. -/
def withParseMetadata (d : Document) (s : HeadingSettings) : Document :=
  if d.isPdf then
    { d with
      parseMeta :=
        ((d.parseMeta.setSome Key.heading (d.fontHeading? s)).setSome Key.pages d.pages?).setSome
          Key.lastModified d.date? }
  else d

end Document
end Precis
