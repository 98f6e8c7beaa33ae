/-
READING JSON TEXT. A number without a point or an exponent that fits 64 bits is an integer; every other number is the
nearest float, and one beyond the largest float is refused. Fields come in any order and are put into order.
-/
import DocumentQuery.Decimal.Digits
import DocumentQuery.Json.Basic

namespace DocumentQuery.Json

/-! ## Numbers -/

def isJsonBlank (c : Char) : Bool := c = ' ' || c = '\t' || c = '\n' || c = '\r'

def skipBlanks (cs : List Char) : List Char := cs.dropWhile isJsonBlank

/-- a float from its digits without the point and its decimal exponent; none when it is too large -/
def floatOfDecimal? (negative : Bool) (digits : Nat) (exponent : Int) : Option Json :=
  let length : Int := (decimalDigits digits).length
  if digits = 0 then some (.num (.float (nearest negative 0 1)))
  else if 310 < exponent + length then none
  else if exponent + length < -400 then some (.num (.float (nearest negative 0 1)))
  else
    let x := nearestDecimal negative digits exponent
    if isFinite x then some (.num (.float x)) else none

/-- fraction digits behind a point; a point needs at least one digit -/
def readFraction (cs : List Char) : Option (List Char × List Char) :=
  match cs with
  | '.' :: rest =>
    match spanDigits rest with
    | ([], _) => none
    | (ds, rest) => some (ds, rest)
  | _ => some ([], cs)

/-- exponent behind `e` or `E`; absent when there is none -/
def readExponent (cs : List Char) : Option (Option Int × List Char) :=
  match cs with
  | c :: rest =>
    if c = 'e' ∨ c = 'E' then
      let (negative, rest) := match rest with
        | '-' :: r => (true, r)
        | '+' :: r => (false, r)
        | r => (false, r)
      match spanDigits rest with
      | ([], _) => none
      | (ds, rest) =>
        let n : Int := decimalValue ds
        some (some (if negative then -n else n), rest)
    else some (none, cs)
  | [] => some (none, [])

/-- a number at the front -/
def readNumber (cs : List Char) : Option (Json × List Char) := do
  let (negative, cs) := match cs with
    | '-' :: r => (true, r)
    | r => (false, r)
  let (whole, rest) := spanDigits cs
  if whole.isEmpty ∨ (whole.head? = some '0' ∧ 1 < whole.length) then none
  else
    let (decimals, rest) ← readFraction rest
    let (exponent, rest) ← readExponent rest
    let digits := decimalValue (whole ++ decimals)
    let n : Int := if negative then -(digits : Int) else digits
    if decimals.isEmpty ∧ exponent.isNone ∧ -Int.pow 2 63 ≤ n ∧ n < Int.pow 2 64 ∧ ¬(negative ∧ digits = 0) then
      some (.num (.int n), rest)
    else
      let v ← floatOfDecimal? negative digits (exponent.getD 0 - decimals.length)
      some (v, rest)

/-! ## Texts -/

/-- four hexadecimal digits at the front -/
def readHex4 : List Char → Option (Nat × List Char)
  | a :: b :: c :: d :: rest => do
    let w ← hexValue? a
    let x ← hexValue? b
    let y ← hexValue? c
    let z ← hexValue? d
    some (4096 * w + 256 * x + 16 * y + z, rest)
  | _ => none

/-- character of a one-letter escape -/
def shortEscape? : Char → Option Char
  | '"' => some '"'
  | '\\' => some '\\'
  | '/' => some '/'
  | 'b' => some '\x08'
  | 'f' => some '\x0c'
  | 'n' => some '\n'
  | 'r' => some '\r'
  | 't' => some '\t'
  | _ => none

/-- the escaped character behind a backslash; units of a surrogate pair belong together -/
def readEscape (cs : List Char) : Option (Char × List Char) :=
  match cs with
  | 'u' :: rest => do
    let (n, rest) ← readHex4 rest
    if 0xD800 ≤ n ∧ n < 0xDC00 then
      match rest with
      | '\\' :: 'u' :: rest =>
        let (m, rest) ← readHex4 rest
        if 0xDC00 ≤ m ∧ m < 0xE000 then some (Char.ofNat (0x10000 + (n - 0xD800) * 1024 + (m - 0xDC00)), rest) else none
      | _ => none
    else if 0xDC00 ≤ n ∧ n < 0xE000 then none
    else some (Char.ofNat n, rest)
  | c :: rest => (shortEscape? c).map (·, rest)
  | [] => none

/-- the rest of a quoted text behind its opening quote, the characters so far in reverse -/
def readText : Nat → List Char → List Char → Option (String × List Char)
  | 0, _, _ => none
  | _, _, [] => none
  | _, done, '"' :: rest => some (String.ofList done.reverse, rest)
  | steps + 1, done, '\\' :: rest =>
    match readEscape rest with
    | some (c, rest) => readText steps (c :: done) rest
    | none => none
  | steps + 1, done, c :: rest => if c.toNat < 32 then none else readText steps (c :: done) rest

/-! ## Values -/

/-- drops a word that has to be at the front -/
def expect : List Char → List Char → Option (List Char)
  | [], cs => some cs
  | w :: word, c :: cs => if w = c then expect word cs else none
  | _ :: _, [] => none

mutual

/-- a value at the front, after blanks; every step takes one off `steps` -/
def readValue : Nat → List Char → Option (Json × List Char)
  | 0, _ => none
  | steps + 1, cs =>
    match skipBlanks cs with
    | '"' :: rest => (readText (rest.length + 1) [] rest).map fun (s, rest) => (.str s, rest)
    | '[' :: rest =>
      match skipBlanks rest with
      | ']' :: rest => some (.arr [], rest)
      | rest => readItems steps [] rest
    | '\x7b' :: rest =>
      match skipBlanks rest with
      | '\x7d' :: rest => some (.obj [], rest)
      | rest => readFields steps [] rest
    | 'n' :: rest => (expect ['u', 'l', 'l'] rest).map (.null, ·)
    | 't' :: rest => (expect ['r', 'u', 'e'] rest).map (.bool true, ·)
    | 'f' :: rest => (expect ['a', 'l', 's', 'e'] rest).map (.bool false, ·)
    | rest => readNumber rest

/-- the rest of an array, the items so far in reverse -/
def readItems : Nat → List Json → List Char → Option (Json × List Char)
  | 0, _, _ => none
  | steps + 1, done, cs =>
    match readValue steps cs with
    | none => none
    | some (v, rest) =>
      match skipBlanks rest with
      | ',' :: rest => readItems steps (v :: done) rest
      | ']' :: rest => some (.arr (v :: done).reverse, rest)
      | _ => none

/-- the rest of an object, with the fields so far -/
def readFields : Nat → Document → List Char → Option (Json × List Char)
  | 0, _, _ => none
  | steps + 1, done, cs =>
    match skipBlanks cs with
    | '"' :: rest =>
      match readText (rest.length + 1) [] rest with
      | none => none
      | some (key, rest) =>
        match skipBlanks rest with
        | ':' :: rest =>
          match readValue steps rest with
          | none => none
          | some (v, rest) =>
            match skipBlanks rest with
            | ',' :: rest => readFields steps (Document.insert done key v) rest
            | '\x7d' :: rest => some (.obj (Document.insert done key v), rest)
            | _ => none
        | _ => none
    | _ => none

end

/-- the one value that a text holds, if it is JSON -/
def read (text : String) : Option Json :=
  let cs := text.toList
  match readValue (2 * cs.length + 2) cs with
  | some (v, rest) => if (skipBlanks rest).isEmpty then some v else none
  | none => none

end DocumentQuery.Json
