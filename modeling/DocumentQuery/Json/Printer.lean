/-
COMPACT TEXT of JSON values: no blanks, keys in order, and only quotes, backslashes and control characters escaped.
-/
import DocumentQuery.Decimal.Digits
import DocumentQuery.Decimal.Notation
import DocumentQuery.Json.Basic

namespace DocumentQuery

/-- text of a number, which shows whether it is an integer -/
def Number.text : Number → String
  | .int n => toString n
  | .float x => jsonText x

namespace Json

/-- a character inside of a quoted text -/
def escapeChar (c : Char) : List Char :=
  if c = '"' then ['\\', '"']
  else if c = '\\' then ['\\', '\\']
  else if c.toNat = 8 then ['\\', 'b']
  else if c.toNat = 12 then ['\\', 'f']
  else if c = '\n' then ['\\', 'n']
  else if c = '\r' then ['\\', 'r']
  else if c = '\t' then ['\\', 't']
  else if c.toNat < 32 then ['\\', 'u', '0', '0', lowerHex (c.toNat / 16), lowerHex (c.toNat % 16)]
  else [c]

/-- a quoted text -/
def quote (s : String) : String := String.ofList ('"' :: s.toList.flatMap escapeChar ++ ['"'])

mutual

/-- compact text of a value -/
def compact : Json → String
  | .null => "null"
  | .bool true => "true"
  | .bool false => "false"
  | .num n => n.text
  | .str s => quote s
  | .arr items => "[" ++ compactItems items ++ "]"
  | .obj fields => "\x7b" ++ compactFields fields ++ "\x7d"

/-- items, commas between them -/
def compactItems : List Json → String
  | [] => ""
  | [v] => compact v
  | v :: w :: rest => compact v ++ "," ++ compactItems (w :: rest)

/-- fields, commas between them -/
def compactFields : List (String × Json) → String
  | [] => ""
  | [(k, v)] => quote k ++ ":" ++ compact v
  | (k, v) :: f :: rest => quote k ++ ":" ++ compact v ++ "," ++ compactFields (f :: rest)

end

end Json

end DocumentQuery
