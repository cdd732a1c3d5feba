import Precis.Json.Basic
import Precis.Metadata

/-!
Metadata in JSON: an object with a member for every key, whose value is the array of the values.
-/

namespace Precis.Metadata

def toJson (m : Metadata) : Json :=
  .object (m.toList.map fun e => (e.1, .ofTexts e.2))

def entry? (member : Text × Json) : Option (Text × List Text) :=
  (member.2.toList? Json.toText?).map fun values => (member.1, values)

/-- A key that is repeated has the values that come last. -/
def ofJson? : Json → Option Metadata
  | .object members => (members.mapM entry?).map ofList
  | _ => none

end Precis.Metadata
