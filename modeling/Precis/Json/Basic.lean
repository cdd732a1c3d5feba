import Precis.Text.Numeral

/-!
JSON values. An object keeps its members as they were written, repeated keys included: whether a
repetition matters is for the reader of the object to say.
-/

namespace Precis

inductive Json where
  | null
  | bool (b : Bool)
  /-- A number written in digits alone. -/
  | natural (n : Nat)
  /-- Any other number, as it was written. -/
  | number (written : Text)
  | string (t : Text)
  /-- A string that escapes half a surrogate pair, or an object with such a key. It can be passed
  over, and no text can be read from it. -/
  | unreadable
  | array (items : List Json)
  | object (members : List (Text × Json))

namespace Json

def ofTexts (ts : List Text) : Json :=
  .array (ts.map .string)

def ofOption {α : Type} (encode : α → Json) : Option α → Json
  | none => .null
  | some a => encode a

def toText? : Json → Option Text
  | .string t => some t
  | _ => none

def toUInt64? : Json → Option UInt64
  | .natural n => Text.word64? n
  | _ => none

def toList? {α : Type} (decode : Json → Option α) : Json → Option (List α)
  | .array items => items.mapM decode
  | _ => none

/-- The value of the first member with the key. -/
def member? (key : Text) : List (Text × Json) → Option Json
  | [] => none
  | (k, v) :: rest => if k = key then some v else member? key rest

end Json
end Precis
