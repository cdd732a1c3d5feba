import Precis.Body.Sniff
import Precis.ContentType
import Precis.Error
import Precis.Text.Utf8

/-!
From the bytes of a body to its text. The format is a PDF's or HTML by the declared type or by the
first bytes; of what remains, declared text is decoded whatever its faults, and anything else only
if it has none.
-/

namespace Precis

/-- How the text of a body was obtained. -/
inductive Engine where
  | pdf
  | html
  | text
  | none
deriving DecidableEq

def Engine.name : Engine → Text
  | .pdf => "pdf-extract".toList
  | .html => "html2text".toList
  | .text => "text".toList
  | .none => "none".toList

/-- Why a body has no text. -/
inductive BodyWarning where
  | unreadablePdf
  | unsupportedBinary
deriving DecidableEq

def BodyWarning.name : BodyWarning → Text
  | .unreadablePdf => "pdf_extract_failed".toList
  | .unsupportedBinary => "unsupported_binary_content".toList

structure BodyText where
  engine : Engine
  text : Text
  warnings : List BodyWarning

/-- Readers of the formats that are not plain text. -/
structure Readers where
  pdf : Bytes → Except Error Text
  html : Text → Text

namespace Body

/-- Faults of decoding leave no trace in the text. -/
def read (readers : Readers) (bytes : Bytes) (declared : Option Text) : BodyText :=
  let type := ContentType.essence declared
  if type == ContentType.pdf || looksLikePdf bytes then
    match readers.pdf bytes with
    | .ok text => ⟨.pdf, text.dropReplacements, []⟩
    | .error _ => ⟨.pdf, [], [.unreadablePdf]⟩
  else if ContentType.isHtml type || looksLikeHtml bytes then
    ⟨.html, (readers.html (Utf8.decodeLossy bytes)).dropReplacements, []⟩
  else if ContentType.isTextLike type then
    ⟨.text, (Utf8.decodeLossy bytes).dropReplacements, []⟩
  else match Utf8.decode? bytes with
    | some text => ⟨.text, text.dropReplacements, []⟩
    | none => ⟨.none, [], [.unsupportedBinary]⟩

end Body
end Precis
