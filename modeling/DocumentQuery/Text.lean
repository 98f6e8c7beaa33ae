/-
WORDS OF REQUESTS: blanks around them do not count, and neither does the case of ASCII letters. Blanks are also what the
notation of patterns may skip.
-/

namespace DocumentQuery

/-- the tab to the carriage return, the space, and the spaces and separators outside ASCII -/
def Unicode.isBlank (c : Char) : Bool :=
  let n := c.toNat
  (9 ≤ n && n ≤ 13) || n = 0x20 || n = 0x85 || n = 0xA0 || n = 0x1680 || (0x2000 ≤ n && n ≤ 0x200A) || n = 0x2028 ||
    n = 0x2029 || n = 0x202F || n = 0x205F || n = 0x3000

namespace Text

def trimChars (cs : List Char) : List Char :=
  ((cs.dropWhile Unicode.isBlank).reverse.dropWhile Unicode.isBlank).reverse

/-- the text without blanks at its ends -/
def trim (s : String) : String := String.ofList (trimChars s.toList)

/-- the text with ASCII letters in lower case -/
def lower (s : String) : String := String.ofList (s.toList.map Char.toLower)

/-- a tag with blanks around it, one dollar sign in front and the case of its letters left out -/
def plainTag (tag : String) : String :=
  let cs := trimChars tag.toList
  String.ofList ((match cs with
    | '$' :: rest => rest
    | _ => cs).map Char.toLower)

/-- whether a key is written like an operator -/
def isOperatorKey (key : String) : Bool := key.toList.head? == some '$'

end Text

end DocumentQuery
