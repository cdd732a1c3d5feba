import Precis.Heading.Basic
import Precis.Json.Record

/-!
Headings in JSON. A provenance is written as its name; it is read as well from an object whose only
member has that name and the value null.
-/

namespace Precis

namespace Provenance

def name : Provenance → Text
  | .fonts => "pdf_fonts".toList
  | .text => "pdf_text".toList

def toJson (p : Provenance) : Json :=
  .string p.name

def ofName? (t : Text) : Option Provenance :=
  [Provenance.fonts, .text].find? fun p => p.name == t

def ofJson? : Json → Option Provenance
  | .string t => ofName? t
  | .object [(t, .null)] => ofName? t
  | _ => none

end Provenance

namespace Heading

def fieldNames : List Text :=
  ["text", "provenance"].map String.toList

def toJson (h : Heading) : Json :=
  .object [("text".toList, .string h.text), ("provenance".toList, h.provenance.toJson)]

def ofJson? (json : Json) : Option Heading := do
  let r ← json.record? fieldNames
  return {
    text := ← r.required? "text" Json.toText?
    provenance := ← r.required? "provenance" Provenance.ofJson? }

end Heading
end Precis
