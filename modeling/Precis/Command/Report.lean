import Precis.Body.Basic
import Precis.Heading.Json
import Precis.Json.Printer
import Precis.Metadata.Json

/-!
What a command reports, in JSON and as plain text. The members of every object are in ascending
order of their keys.
-/

namespace Precis.Command

inductive Report where
  | summary (engine : Engine) (sentences : Nat) (summary : Text) (warnings : List BodyWarning)
  | heading (heading : Option Heading)
  | textHeading (heading : Option Heading) (warnings : List BodyWarning)
  | index (url : Text) (parseMeta fields : Metadata) (warnings : List BodyWarning)
  | version

namespace Report

def programName : Text :=
  "docgist".toList

def programVersion : Text :=
  "0.1.0".toList

def ofWarnings (warnings : List BodyWarning) : Json :=
  .ofTexts (warnings.map BodyWarning.name)

def toJson : Report → Json
  | .summary engine count text warnings => .object [
      ("engine".toList, .string engine.name),
      ("kind".toList, .string "summary".toList),
      ("ok".toList, .bool true),
      ("schema_version".toList, .natural 1),
      ("sentences".toList, .natural count),
      ("summary".toList, .string text),
      ("warnings".toList, ofWarnings warnings)]
  | .heading h => .object [
      ("heading".toList, .ofOption .string (h.map Heading.text)),
      ("kind".toList, .string "heading".toList),
      ("ok".toList, .bool true),
      ("provenance".toList, .ofOption Provenance.toJson (h.map Heading.provenance)),
      ("schema_version".toList, .natural 1),
      ("tagged".toList, .ofOption .string (h.map Heading.tagged))]
  | .textHeading h warnings => .object [
      ("heading".toList, .ofOption .string (h.map Heading.text)),
      ("kind".toList, .string "text_heading".toList),
      ("ok".toList, .bool true),
      ("schema_version".toList, .natural 1),
      ("tagged".toList, .ofOption .string (h.map Heading.tagged)),
      ("warnings".toList, ofWarnings warnings)]
  | .index url parseMeta fields warnings => .object [
      ("fields".toList, fields.toJson),
      ("kind".toList, .string "index".toList),
      ("ok".toList, .bool true),
      ("parse_meta".toList, parseMeta.toJson),
      ("schema_version".toList, .natural 1),
      ("url".toList, .string url),
      ("warnings".toList, ofWarnings warnings)]
  | .version => .object [
      ("kind".toList, .string "version".toList),
      ("name".toList, .string programName),
      ("ok".toList, .bool true),
      ("schema_version".toList, .natural 1),
      ("version".toList, .string programVersion)]

/-- A line of text, or nothing where there is nothing to say. An index entry has no plain form. -/
def line? : Report → Option Text
  | .summary _ _ text _ => if text.isEmpty then none else some text
  | .heading h | .textHeading h _ => h.map Heading.tagged
  | .index .. => none
  | .version => some (programName ++ ' ' :: programVersion)

def renderJson (r : Report) : Text :=
  r.toJson.render ++ ['\n']

def renderText (r : Report) : Text :=
  match r.line? with
  | none => []
  | some line => line ++ ['\n']

end Report
end Precis.Command
