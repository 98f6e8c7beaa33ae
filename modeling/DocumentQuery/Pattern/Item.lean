/-
ITEMS of the notation of patterns: what a backslash and the characters behind it stand for. Each reading step gets the
rest of the text behind what it has read.
-/
import DocumentQuery.Decimal.Digits
import DocumentQuery.Pattern.Basic
import DocumentQuery.Pattern.Escape
import DocumentQuery.Pattern.Flags
import DocumentQuery.Unicode.Folding
import DocumentQuery.Unicode.Property

namespace DocumentQuery.Pattern

/-- what a single item of the notation stands for -/
inductive Item where
  /-- a character; `byte` if it is written with two hexadecimal digits -/
  | char (c : Char) (byte : Bool)
  | set (s : CharSet)
  | look (a : Anchor)

/-- digits of a hexadecimal number of fixed length, blanks skipped between them where they do not count -/
def readHexDigits (f : Flags) : Nat → Nat → List Char → Option (Nat × List Char)
  | 0, value, cs => some (value, cs)
  | n + 1, value, cs =>
    match cs with
    | c :: rest => do
      let d ← hexValue? c
      readHexDigits f n (16 * value + d) (skip f rest)
    | [] => none

/-- digits of a hexadecimal number up to a closing brace; at least one, no leading-zero rule -/
def readHexBraced (f : Flags) : Nat → Option Nat → List Char → Option (Nat × List Char)
  | 0, _, _ => none
  | steps + 1, value, cs =>
    match cs with
    | '\x7d' :: rest => value.map (·, skip f rest)
    | c :: rest => do
      let d ← hexValue? c
      readHexBraced f steps (some (16 * value.getD 0 + d)) (skip f rest)
    | [] => none

/-- the character with a code point, if there is one -/
def charOf? (n : Nat) : Option Char := if n.isValidChar then some (Char.ofNat n) else none

/-- a character by its code point, behind `\x`, `\u` or `\U` -/
def readCodePoint (f : Flags) (kind : Char) (cs : List Char) : Option (Item × List Char) :=
  match skip f cs with
  | '\x7b' :: rest => do
    let (n, rest) ← readHexBraced f (rest.length + 1) none (skip f rest)
    let c ← charOf? n
    some (.char c false, rest)
  | cs => do
    let width := if kind = 'x' then 2 else if kind = 'u' then 4 else 8
    let (n, rest) ← readHexDigits f width 0 cs
    let c ← charOf? n
    some (.char c (kind = 'x'), rest)

/-- the text up to a closing brace, blanks skipped where they do not count -/
def readBraced (f : Flags) : Nat → List Char → List Char → Option (List Char × List Char)
  | 0, _, _ => none
  | steps + 1, done, cs =>
    match cs with
    | '\x7d' :: rest => some (done.reverse, rest)
    | c :: rest => readBraced f steps (c :: done) (skip f rest)
    | [] => none

/-- parts in front of and behind the first place where `sep` stands -/
def cutAt? (sep : List Char) : List Char → List Char → Option (String × String)
  | _, [] => none
  | done, c :: rest =>
    if sep.isPrefixOf (c :: rest) then
      some (String.ofList done.reverse, String.ofList ((c :: rest).drop sep.length))
    else cutAt? sep (c :: done) rest

/-- the property that the text in braces names, and whether it is asked for or excluded -/
def namedProperty? (text : List Char) : Option (CharSet × Bool) :=
  match cutAt? ['!', '='] [] text with
  | some (name, value) => (Unicode.propertyWithValue? name value).map (·, false)
  | none =>
    match (cutAt? [':'] [] text).or (cutAt? ['='] [] text) with
    | some (name, value) => (Unicode.propertyWithValue? name value).map (·, true)
    | none => (Unicode.property? (String.ofList text)).map (·, true)

/-- the set made to ignore letter case if the flags say so -/
def foldSet (f : Flags) (s : CharSet) : CharSet :=
  if f.ignoreCase then (if f.unicode then s.folded else s.asciiFolded) else s

/-- everything but the set; without Unicode that would match parts of characters and is refused -/
def negate? (f : Flags) (s : CharSet) : Option CharSet := if f.unicode then some s.compl else none

/-- the set or everything but the set -/
def negateIf? (f : Flags) (negated : Bool) (s : CharSet) : Option CharSet :=
  if negated then negate? f s else some s

/-- a property class behind `\p` or `\P`; it needs all of Unicode -/
def readProperty (f : Flags) (negated : Bool) (cs : List Char) : Option (Item × List Char) :=
  if !f.unicode then none
  else
    match skip f cs with
    | [] => none
    | '\x7b' :: rest => do
      let (name, rest) ← readBraced f (rest.length + 1) [] (skip f rest)
      let (s, wanted) ← namedProperty? name
      let s := foldSet f s
      some (.set (if negated == wanted then s.compl else s), rest)
    | '\\' :: _ => none
    | c :: rest => do
      let s ← Unicode.property? (String.ofList [c])
      let s := foldSet f s
      some (.set (if negated then s.compl else s), skip f rest)

/-- digits, blanks and word characters -/
def digitSet (f : Flags) : CharSet := if f.unicode then Unicode.decimalDigit else .asciiDigit

def blankSet (f : Flags) : CharSet := if f.unicode then Unicode.whiteSpace else .asciiBlank

def wordSet (f : Flags) : CharSet := if f.unicode then Unicode.wordChars else .asciiWord

/-- whether a letter names one of these classes, and the class; a capital letter means all others -/
def letterClass? (f : Flags) : Char → Option (Option CharSet)
  | 'd' => some (some (digitSet f))
  | 's' => some (some (blankSet f))
  | 'w' => some (some (wordSet f))
  | 'D' => some (negate? f (digitSet f))
  | 'S' => some (negate? f (blankSet f))
  | 'W' => some (negate? f (wordSet f))
  | _ => none

/-- letters and hyphens at the front, blanks skipped behind each where they do not count -/
def readEdgeName (f : Flags) : Nat → List Char → List Char → List Char × List Char
  | 0, done, cs => (done.reverse, cs)
  | steps + 1, done, cs =>
    match cs with
    | c :: rest =>
      if c.isAlpha ∨ c = '-' then readEdgeName f steps (c :: done) (skip f rest) else (done.reverse, cs)
    | [] => (done.reverse, [])

/-- the edge of a word behind `\b`: plain, or one of four named in braces; other braces are left to be read later -/
def readWordEdge (f : Flags) (cs : List Char) : Option (Item × List Char) :=
  let ascii := !f.unicode
  match cs with
  | '\x7b' :: rest =>
    match skip f rest with
    | [] => none
    | c :: more =>
      if c.isAlpha ∨ c = '-' then
        match readEdgeName f (more.length + 1) [] (c :: more) with
        | (name, '\x7d' :: rest) =>
          match String.ofList name with
          | "start" => some (.look (.wordStart ascii), rest)
          | "end" => some (.look (.wordEnd ascii), rest)
          | "start-half" => some (.look (.wordStartHalf ascii), rest)
          | "end-half" => some (.look (.wordEndHalf ascii), rest)
          | _ => none
        | _ => none
      else some (.look (.wordEdge ascii), cs)
  | _ => some (.look (.wordEdge ascii), cs)

/-- the item behind a backslash -/
def readEscape (f : Flags) : List Char → Option (Item × List Char)
  | [] => none
  | c :: rest =>
    if c = 'x' ∨ c = 'u' ∨ c = 'U' then readCodePoint f c rest
    else if c = 'p' ∨ c = 'P' then readProperty f (c = 'P') rest
    else match letterClass? f c with
      | some s => s.map (.set ·, rest)
      | none =>
        if isEscapable c then some (.char c false, rest)
        else match c with
          | 'a' => some (.char '\x07' false, rest)
          | 'f' => some (.char '\x0c' false, rest)
          | 't' => some (.char '\t' false, rest)
          | 'n' => some (.char '\n' false, rest)
          | 'r' => some (.char '\r' false, rest)
          | 'v' => some (.char '\x0b' false, rest)
          | 'A' => some (.look .textStart, rest)
          | 'z' => some (.look .textEnd, rest)
          | 'b' => readWordEdge f rest
          | 'B' => some (.look (.notWordEdge (!f.unicode)), rest)
          | '<' => some (.look (.wordStart (!f.unicode)), rest)
          | '>' => some (.look (.wordEnd (!f.unicode)), rest)
          | _ => none

end DocumentQuery.Pattern
