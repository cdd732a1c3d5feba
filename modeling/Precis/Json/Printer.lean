import Precis.Json.Basic

/-!
Writing JSON text on one line, with no white space between tokens. Of the characters only the
quote, the backslash and control characters are escaped, those that have one by their short escape.
-/

namespace Precis.Json

def escape (c : Char) : Text :=
  if c = '"' then ['\\', '"']
  else if c = '\\' then ['\\', '\\']
  else if c = '\x08' then ['\\', 'b']
  else if c = '\x0C' then ['\\', 'f']
  else if c = '\n' then ['\\', 'n']
  else if c = '\r' then ['\\', 'r']
  else if c = '\t' then ['\\', 't']
  else if c.toNat < 0x20 then
    ['\\', 'u', '0', '0', Text.hexDigit (c.toNat / 16), Text.hexDigit (c.toNat % 16)]
  else [c]

def quote (t : Text) : Text :=
  '"' :: (t.flatMap escape ++ ['"'])

mutual

/-- What cannot be read is written as null. -/
def render : Json → Text
  | .null | .unreadable => "null".toList
  | .bool true => "true".toList
  | .bool false => "false".toList
  | .natural n => Text.ofNat n
  | .number written => written
  | .string t => quote t
  | .array items => '[' :: (Text.join [','] (renderItems items) ++ [']'])
  | .object members => '\x7b' :: (Text.join [','] (renderMembers members) ++ ['\x7d'])

def renderItems : List Json → List Text
  | [] => []
  | item :: items => item.render :: renderItems items

def renderMembers : List (Text × Json) → List Text
  | [] => []
  | (key, value) :: members => (quote key ++ ':' :: value.render) :: renderMembers members

end

end Precis.Json
