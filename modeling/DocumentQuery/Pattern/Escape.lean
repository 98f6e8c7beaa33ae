/-
SIGNS of the notation of patterns, and the notation of a text in which none of them has its meaning.
-/

namespace DocumentQuery.Pattern

/-- characters with a meaning of their own somewhere in the notation -/
def isMeta (c : Char) : Bool :=
  ['\\', '.', '+', '*', '?', '(', ')', '|', '[', ']', '\x7b', '\x7d', '^', '$', '#', '&', '-', '~'].contains c

/-- the notation of a text as a pattern for that text: a backslash in front of every character with a meaning -/
def escapeChars : List Char → List Char
  | [] => []
  | c :: rest => if isMeta c then '\\' :: c :: escapeChars rest else c :: escapeChars rest

def escape (text : String) : String := String.ofList (escapeChars text.toList)

/-- ASCII characters that a backslash may stand in front of without changing them -/
def isEscapable (c : Char) : Bool :=
  isMeta c || (c.toNat < 128 && !c.isAlphanum && c != '<' && c != '>')

end DocumentQuery.Pattern
