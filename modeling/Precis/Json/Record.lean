import Precis.Json.Basic

/-!
Records in JSON. A record is written as an object, whose members may stand in any order among
others that the record does not know, or as the array of its fields in their order.
-/

namespace Precis.Json

/-- The values that were given, by field name. -/
abbrev Record := Text → Option Json

def hasRepeated (names : List Text) (members : List (Text × Json)) : Bool :=
  names.any fun name => decide (1 < (members.filter fun m => m.1 == name).length)

def itemFor? (name : Text) : List Text → List Json → Option Json
  | n :: names, item :: items => if n = name then some item else itemFor? name names items
  | _, _ => none

/-- Nothing if the value is no record of these fields: an object that repeats one of them, or an
array that is longer than they are. -/
def record? (names : List Text) : Json → Option Record
  | .object members =>
      if hasRepeated names members then none else some fun name => member? name members
  | .array items =>
      if names.length < items.length then none else some fun name => itemFor? name names items
  | _ => none

namespace Record

variable {α : Type}

def required? (r : Record) (name : String) (decode : Json → Option α) : Option α :=
  (r name.toList).bind decode

/-- A field that was not given has its default. -/
def orDefault? (r : Record) (name : String) (default : α) (decode : Json → Option α) : Option α :=
  match r name.toList with
  | none => some default
  | some value => decode value

/-- A field that may be null or missing. -/
def optional? (r : Record) (name : String) (decode : Json → Option α) : Option (Option α) :=
  match r name.toList with
  | none | some .null => some none
  | some value => (decode value).map some

end Record

end Precis.Json
