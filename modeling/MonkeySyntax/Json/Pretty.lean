import MonkeySyntax.Json.Basic

/-!
# JSON laid out for reading

Every item of a list and every field of an object stands on a line of its own, indented by two
spaces per level. Strings escape the quote, the backslash and the controls below the space.
-/

namespace MonkeySyntax

/-- A control character as four hexadecimal digits. -/
def hexEscape (c : Char) : List Char :=
  ['\\', 'u', '0', '0', Nat.digitChar (c.toNat / 16), Nat.digitChar (c.toNat % 16)]

def jsonEscaped (c : Char) : List Char :=
  if c = '"' then ['\\', '"']
  else if c = '\\' then ['\\', '\\']
  else if c = '\n' then ['\\', 'n']
  else if c = '\r' then ['\\', 'r']
  else if c = '\t' then ['\\', 't']
  else if c = '\x08' then ['\\', 'b']
  else if c = '\x0c' then ['\\', 'f']
  else if c.toNat < 0x20 then hexEscape c
  else [c]

def jsonQuoted (text : String) : List Char :=
  '"' :: text.toList.flatMap jsonEscaped ++ ['"']

/-- A line break and the indentation of the line after it. -/
def lineAt (depth : Nat) : List Char := '\n' :: List.replicate (2 * depth) ' '

mutual

def Json.layout (depth : Nat) : Json → List Char
  | .null => "null".toList
  | .bool true => "true".toList
  | .bool false => "false".toList
  | .int value => (toString value).toList
  | .str value => jsonQuoted value
  | .arr [] => "[]".toList
  | .arr (item :: rest) =>
    '[' :: (lineAt (depth + 1) ++ item.layout (depth + 1) ++ layoutItems (depth + 1) rest ++
      lineAt depth ++ [']'])
  | .obj [] => "\x7b\x7d".toList
  | .obj ((name, value) :: rest) =>
    '\x7b' :: (lineAt (depth + 1) ++ jsonQuoted name ++ [':', ' '] ++ value.layout (depth + 1) ++
      layoutFields (depth + 1) rest ++ lineAt depth ++ ['\x7d'])

/-- Items after the first. -/
def layoutItems (depth : Nat) : List Json → List Char
  | [] => []
  | item :: rest => ',' :: (lineAt depth ++ item.layout depth ++ layoutItems depth rest)

/-- Fields after the first. -/
def layoutFields (depth : Nat) : List (String × Json) → List Char
  | [] => []
  | (name, value) :: rest =>
    ',' :: (lineAt depth ++ jsonQuoted name ++ [':', ' '] ++ value.layout depth ++
      layoutFields depth rest)

end

def Json.pretty (json : Json) : String := String.ofList (json.layout 0)

end MonkeySyntax
