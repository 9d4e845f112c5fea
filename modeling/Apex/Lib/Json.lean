import Mathlib

/-!
JSON documents and their compact text, as `serde_json` writes it.

An object keeps its members in the order they are written. A record type is
serialized in the order of its fields; a `json!` object is a sorted map, so
`Json.object` sorts the members it is given by key.
-/

namespace Apex

/-- A JSON document. Numbers are integers: every number the modelled programs
serialize into a digest or a journal is one. -/
inductive Json where
  | null
  | bool (value : Bool)
  | int (value : Int)
  | str (value : String)
  | arr (items : List Json)
  | obj (members : List (String × Json))
  deriving Repr

namespace Json

/-- The members in the order of a sorted map. -/
def insertMember (member : String × Json) : List (String × Json) → List (String × Json)
  | [] => [member]
  | head :: rest =>
      if member.1 < head.1 then member :: head :: rest else head :: insertMember member rest

/-- A `json!` object. -/
def object (members : List (String × Json)) : Json :=
  .obj (members.foldr insertMember [])

/-- An array of strings. -/
def strings (items : List String) : Json :=
  .arr (items.map .str)

/-- One lowercase hexadecimal digit. -/
def hexDigit (n : Nat) : Char :=
  Char.ofNat (if n < 10 then '0'.toNat + n else 'a'.toNat + (n - 10))

/-- One character of a string literal, escaped where JSON requires it. -/
def escapeChar (c : Char) : List Char :=
  if c = '"' then ['\\', '"']
  else if c = '\\' then ['\\', '\\']
  else if c.toNat = 8 then ['\\', 'b']
  else if c.toNat = 9 then ['\\', 't']
  else if c.toNat = 10 then ['\\', 'n']
  else if c.toNat = 12 then ['\\', 'f']
  else if c.toNat = 13 then ['\\', 'r']
  else if c.toNat < 32 then ['\\', 'u', '0', '0', hexDigit (c.toNat / 16), hexDigit (c.toNat % 16)]
  else [c]

/-- A string literal. -/
def renderString (value : String) : List Char :=
  '"' :: value.toList.flatMap escapeChar ++ ['"']

/-- The decimal text of an integer. -/
def renderInt : Int → List Char
  | .ofNat n => Nat.toDigits 10 n
  | .negSucc n => '-' :: Nat.toDigits 10 (n + 1)

mutual

/-- The compact text of a document. -/
def render : Json → List Char
  | .null => "null".toList
  | .bool value => if value then "true".toList else "false".toList
  | .int value => renderInt value
  | .str value => renderString value
  | .arr items => '[' :: renderItems items
  | .obj members => '\x7b' :: renderMembers members

/-- The items of an array and its closing bracket. -/
def renderItems : List Json → List Char
  | [] => [']']
  | [item] => render item ++ [']']
  | item :: rest => render item ++ ',' :: renderItems rest

/-- The members of an object and its closing brace. -/
def renderMembers : List (String × Json) → List Char
  | [] => ['\x7d']
  | [(key, value)] => renderString key ++ ':' :: render value ++ ['\x7d']
  | (key, value) :: rest => renderString key ++ ':' :: render value ++ ',' :: renderMembers rest

end

/-- The text of a document as a string. -/
def toText (document : Json) : String :=
  String.ofList (render document)

example : toText (object [("b", .int (-3)), ("a", strings ["x\n", "y"])]) =
    "\x7b\"a\":[\"x\\n\",\"y\"],\"b\":-3\x7d" := by decide

end Json

end Apex
