import Precis.Document.IndexFields
import Precis.Document.ParseMetadata

/-!
From a parsed document to its index entry: derive metadata, hand them over to the entry, and fill in
what the entry lacks.
-/

namespace Precis.Document

/-- The keys whose first derived value goes to the index entry, if that has none of its own. -/
def handedOver : List Text :=
  [Key.heading, Key.pages, Key.lastModified]

def handOver (d : Document) (fields : Metadata) : Metadata :=
  handedOver.foldl
    (fun fields key =>
      if fields.contains key then fields else fields.setSome key (d.parseMeta.get? key))
    fields

def process (d : Document) (s : Settings) (fields : Metadata) : Document × Metadata :=
  let parsed := d.withParseMetadata s.heading
  (parsed, parsed.indexFields s (parsed.handOver fields))

end Precis.Document
