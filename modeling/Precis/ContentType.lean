import Precis.Text.Basic

/-!
Declared content types. Only what stands before the first semicolon tells the type, in any letter
case.
-/

namespace Precis.ContentType

def pdf : Text :=
  "application/pdf".toList

/-- The type without its parameters; nothing declared is the empty type. -/
def essence (declared : Option Text) : Text :=
  match (declared.getD []).splitOn ';' with
  | [] => []
  | type :: _ => Text.asciiLower (Text.trim type)

def isPdf (declared : Option Text) : Bool :=
  essence declared == pdf

/-- Of a type without parameters. -/
def isHtml (type : Text) : Bool :=
  type == "text/html".toList || type == "application/xhtml+xml".toList

/-- Types whose bodies are text whatever they hold. -/
def isTextLike (type : Text) : Bool :=
  "text/".toList.isPrefixOf type || type == "application/json".toList
    || type == "application/xml".toList || "+xml".toList.isSuffixOf type
    || "+json".toList.isSuffixOf type

end Precis.ContentType
