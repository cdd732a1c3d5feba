import Precis.Text.Utf8

/-!
What the first bytes of a body tell about its format.
-/

namespace Precis.Body

def asciiBytes (s : String) : Bytes :=
  s.toList.map fun c => UInt8.ofNat c.toNat

def looksLikePdf (bytes : Bytes) : Bool :=
  (asciiBytes "%PDF-").isPrefixOf bytes

/-- White space as HTML has it. -/
def isAsciiSpace (b : UInt8) : Bool :=
  b = 0x20 || b = 0x09 || b = 0x0A || b = 0x0C || b = 0x0D

def lowerByte (b : UInt8) : UInt8 :=
  if 0x41 ≤ b ∧ b ≤ 0x5A then b + 0x20 else b

/-- How a page opens, in small letters. -/
def htmlOpeners : List Bytes :=
  ["<!doctype", "<html", "<head", "<body"].map asciiBytes

/-- White space in front and the case of letters do not matter. -/
def looksLikeHtml (bytes : Bytes) : Bool :=
  let rest := bytes.dropWhile isAsciiSpace
  htmlOpeners.any fun opener => (rest.take opener.length).map lowerByte == opener

end Precis.Body
