import Eligibility.Json.Document

/-!
JSON text without blanks. A string escapes the quote, the backslash and the
control characters, and nothing else.
-/

set_option autoImplicit false

namespace Eligibility.Json

def hexDigit (n : Nat) : Char := Char.ofNat (if n < 10 then '0'.toNat + n else 'a'.toNat + (n - 10))

def escape (c : Char) : List Char :=
  if c = '"' then ['\\', '"']
  else if c = '\\' then ['\\', '\\']
  else if c = '\x08' then ['\\', 'b']
  else if c = '\x0c' then ['\\', 'f']
  else if c = '\n' then ['\\', 'n']
  else if c = '\r' then ['\\', 'r']
  else if c = '\t' then ['\\', 't']
  else if c.toNat < 0x20 then
    ['\\', 'u', '0', '0', hexDigit (c.toNat / 16), hexDigit (c.toNat % 16)]
  else [c]

def quote (s : String) : String := String.ofList ('"' :: s.toList.flatMap escape ++ ['"'])

def commaSeparated (parts : List String) : String := String.intercalate "," parts

def listText (parts : List String) : String := "[" ++ commaSeparated parts ++ "]"

def objectText (fields : List String) : String := "\x7b" ++ commaSeparated fields ++ "\x7d"

mutual

/-- The text of a document, its fields in their order. What has no
value has no text. -/
def Document.render : Document → String
  | .null => "null"
  | .bool b => if b then "true" else "false"
  | .number n => n.text
  | .text s => quote s
  | .array items => listText (Document.renderItems items)
  | .object fields => objectText (Document.renderFields fields)
  | .refused .. => ""
  | .unclosed _ => ""

def Document.renderItems : List Document → List String
  | [] => []
  | item :: rest => Document.render item :: Document.renderItems rest

def Document.renderFields : List (Document × Document) → List String
  | [] => []
  | (key, value) :: rest =>
    (Document.render key ++ ":" ++ Document.render value) :: Document.renderFields rest

end

def render (json : Json) : String := json.toDocument.render

end Eligibility.Json
