import Precis.Document.Basic
import Precis.Json.Record
import Precis.Metadata.Json

/-!
Documents in JSON. Only the content type and the tagged text may be null or left out.
-/

namespace Precis.Document

def fieldNames : List Text :=
  ["url", "content_type", "text", "tagged_text", "doc_meta", "parse_meta"].map String.toList

def toJson (d : Document) : Json :=
  .object [
    ("url".toList, .string d.url),
    ("content_type".toList, .ofOption .string d.contentType),
    ("text".toList, .string d.text),
    ("tagged_text".toList, .ofOption .string d.taggedText),
    ("doc_meta".toList, d.readerMeta.toJson),
    ("parse_meta".toList, d.parseMeta.toJson)]

def ofJson? (json : Json) : Option Document := do
  let r ← json.record? fieldNames
  return {
    url := ← r.required? "url" Json.toText?
    contentType := ← r.optional? "content_type" Json.toText?
    text := ← r.required? "text" Json.toText?
    taggedText := ← r.optional? "tagged_text" Json.toText?
    readerMeta := ← r.required? "doc_meta" Metadata.ofJson?
    parseMeta := ← r.required? "parse_meta" Metadata.ofJson? }

end Precis.Document
