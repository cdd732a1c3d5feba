import Precis.Json.Token

/-!
Reading JSON text. The values that are still open stand on a stack, so nesting of any depth is read
in one pass over the tokens.
-/

namespace Precis.Json

/-- An open array or object with what it holds so far, the last first. An object also has the key
whose value comes next; a key that cannot be read spoils the object but not the reading. -/
inductive Frame where
  | array (items : List Json)
  | object (members : Option (List (Text × Json))) (key : Option Text)

/-- What may come next. -/
inductive Expected where
  | value
  | firstItem
  | firstKey
  | key
  | colon
  /-- A value has just ended: a comma or the end of what is open. -/
  | separator
  /-- The outermost value has ended. -/
  | done (value : Json)

structure State where
  expected : Expected
  frames : List Frame

namespace State

/-- Hands a finished value to the innermost open one. -/
def give (value : Json) : List Frame → State
  | [] => ⟨.done value, []⟩
  | .array items :: frames => ⟨.separator, .array (value :: items) :: frames⟩
  | .object (some members) (some key) :: frames =>
      ⟨.separator, .object (some ((key, value) :: members)) none :: frames⟩
  | .object _ _ :: frames => ⟨.separator, .object none none :: frames⟩

def closeObject (members : Option (List (Text × Json))) (frames : List Frame) : State :=
  match members with
  | some ms => give (.object ms.reverse) frames
  | none => give .unreadable frames

/-- A key that cannot be read spoils its object. -/
def readKey (key : Option Text) : List Frame → Option State
  | .object members _ :: frames =>
      some ⟨.colon, .object (if key.isSome then members else none) key :: frames⟩
  | _ => none

def readValue (token : Token) (frames : List Frame) : Option State :=
  match token with
  | .null => some (give .null frames)
  | .bool b => some (give (.bool b) frames)
  | .natural n => some (give (.natural n) frames)
  | .number written => some (give (.number written) frames)
  | .string (some t) => some (give (.string t) frames)
  | .string none => some (give .unreadable frames)
  | .openArray => some ⟨.firstItem, .array [] :: frames⟩
  | .openObject => some ⟨.firstKey, .object (some []) none :: frames⟩
  | _ => none

def readSeparator (token : Token) : List Frame → Option State
  | .array items :: frames =>
      match token with
      | .comma => some ⟨.value, .array items :: frames⟩
      | .closeArray => some (give (.array items.reverse) frames)
      | _ => none
  | .object members key :: frames =>
      match token with
      | .comma => some ⟨.key, .object members key :: frames⟩
      | .closeObject => some (closeObject members frames)
      | _ => none
  | [] => none

def step (state : State) (token : Token) : Option State :=
  match state.expected, token, state.frames with
  | .value, token, frames => readValue token frames
  | .firstItem, .closeArray, .array _ :: frames => some (give (.array []) frames)
  | .firstItem, token, frames => readValue token frames
  | .firstKey, .closeObject, .object members _ :: frames => some (closeObject members frames)
  | .firstKey, .string key, frames => readKey key frames
  | .key, .string key, frames => readKey key frames
  | .colon, .colon, frames => some ⟨.value, frames⟩
  | .separator, token, frames => readSeparator token frames
  | _, _, _ => none

end State

def ofText? (t : Text) : Option Json := do
  let tokens ← Token.list? t
  let state ← tokens.foldlM State.step ⟨.value, []⟩
  match state.expected with
  | .done value => some value
  | _ => none

end Precis.Json
