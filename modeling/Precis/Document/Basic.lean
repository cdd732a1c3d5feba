import Precis.ContentType
import Precis.Document.Key
import Precis.Metadata

/-!
Parsed documents: the text of a document with all that is known about it.
-/

namespace Precis

structure Document where
  url : Text
  contentType : Option Text
  text : Text
  /-- The tagged stream of the first page. -/
  taggedText : Option Text
  /-- What the reader of the document reported. -/
  readerMeta : Metadata
  /-- What was derived from the document. -/
  parseMeta : Metadata
deriving DecidableEq

/-- The whole declared type has to agree, so a type with parameters is none of a PDF. -/
def Document.isPdf (d : Document) : Bool :=
  d.contentType.any fun type => Text.eqIgnoringAsciiCase (Text.trim type) ContentType.pdf

end Precis
