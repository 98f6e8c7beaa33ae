/-
SETS OF CHARACTERS as intervals of code points. The intervals of a set increase, do not overlap and do not touch, and
none of them holds a surrogate, so that two sets with the same members are equal.
-/

namespace DocumentQuery

/-- a closed interval of code points -/
structure Interval where
  first : Nat
  last : Nat
  deriving DecidableEq, Repr

namespace Interval

def holds (i : Interval) (n : Nat) : Bool := i.first ≤ n && n ≤ i.last

def single (n : Nat) : Interval := ⟨n, n⟩

end Interval

/-- a set of characters -/
structure CharSet where
  intervals : List Interval
  deriving DecidableEq, Repr

namespace CharSet

/-- whether some interval of a list holds the code point -/
def anyHolds (l : List Interval) (n : Nat) : Bool := l.any (·.holds n)

/-- membership -/
def contains (s : CharSet) (c : Char) : Bool := anyHolds s.intervals c.toNat

/-! ## Set operations -/

/-- merges two lists; intervals that overlap or touch become one -/
def mergeIntervals : List Interval → List Interval → List Interval
  | [], l => l
  | i :: k, [] => i :: k
  | i :: k, j :: l =>
    if i.last + 1 < j.first then i :: mergeIntervals k (j :: l)
    else if j.last + 1 < i.first then j :: mergeIntervals (i :: k) l
    else if i.last ≤ j.last then mergeIntervals k (⟨min i.first j.first, j.last⟩ :: l)
    else mergeIntervals (⟨min i.first j.first, i.last⟩ :: k) l
termination_by k l => k.length + l.length

/-- the largest code point -/
def lastCode : Nat := 0x10FFFF

/-- code points that are no characters -/
def surrogates : List Interval := [⟨0xD800, 0xDFFF⟩]

/-- what lies between the intervals, from a code point on -/
def gapsFrom (n : Nat) : List Interval → List Interval
  | [] => if n ≤ lastCode then [⟨n, lastCode⟩] else []
  | i :: rest => if n < i.first then ⟨n, i.first - 1⟩ :: gapsFrom (i.last + 1) rest else gapsFrom (i.last + 1) rest

def none : CharSet := ⟨[]⟩

/-- every character -/
def all : CharSet := ⟨[⟨0, 0xD7FF⟩, ⟨0xE000, lastCode⟩]⟩

def union (a b : CharSet) : CharSet := ⟨mergeIntervals a.intervals b.intervals⟩

def compl (a : CharSet) : CharSet := ⟨gapsFrom 0 (mergeIntervals a.intervals surrogates)⟩

def diff (a b : CharSet) : CharSet := (a.compl.union b).compl

def inter (a b : CharSet) : CharSet := a.diff b.compl

/-- members of exactly one of the two -/
def either (a b : CharSet) : CharSet := (a.diff b).union (b.diff a)

def unions (sets : List CharSet) : CharSet := sets.foldr union none

/-! ## Making sets -/

/-- characters from `first` to `last` -/
def range (first last : Nat) : CharSet :=
  if first < 0xD800 ∧ 0xDFFF < last then ⟨[⟨first, 0xD7FF⟩, ⟨0xE000, last⟩]⟩
  else if last < first then none
  else ⟨[⟨first, last⟩]⟩

def char (c : Char) : CharSet := ⟨[.single c.toNat]⟩

def ofChars (cs : List Char) : CharSet := unions (cs.map char)

/-- any character but a line feed -/
def notLineFeed : CharSet := ⟨[⟨0, 9⟩, ⟨11, 0xD7FF⟩, ⟨0xE000, lastCode⟩]⟩

/-- any character but a line feed and a carriage return -/
def notLineBreak : CharSet := ⟨[⟨0, 9⟩, ⟨11, 12⟩, ⟨14, 0xD7FF⟩, ⟨0xE000, lastCode⟩]⟩

/-! ## Looking at sets -/

def isAscii (s : CharSet) : Bool := s.intervals.all fun i => i.last < 128

/-- the member of a set that has just one -/
def single? (s : CharSet) : Option Char :=
  match s.intervals with
  | [i] => if i.first = i.last then some (Char.ofNat i.first) else Option.none
  | _ => Option.none

/-! ## ASCII -/

def asciiDigit : CharSet := range 0x30 0x39

def asciiUpper : CharSet := range 0x41 0x5A

def asciiLower : CharSet := range 0x61 0x7A

def asciiAlpha : CharSet := asciiUpper.union asciiLower

def asciiAlnum : CharSet := asciiDigit.union asciiAlpha

/-- letters, digits and the underscore -/
def asciiWord : CharSet := asciiAlnum.union (char '_')

/-- the tab to the carriage return, and the space -/
def asciiBlank : CharSet := (range 9 13).union (char ' ')

/-- an ASCII class by the name it has between `[:` and `:]` -/
def ofAsciiName? : String → Option CharSet
  | "alnum" => some asciiAlnum
  | "alpha" => some asciiAlpha
  | "ascii" => some (range 0 0x7F)
  | "blank" => some ((char '\t').union (char ' '))
  | "cntrl" => some ((range 0 0x1F).union (range 0x7F 0x7F))
  | "digit" => some asciiDigit
  | "graph" => some (range 0x21 0x7E)
  | "lower" => some asciiLower
  | "print" => some (range 0x20 0x7E)
  | "punct" => some (unions [range 0x21 0x2F, range 0x3A 0x40, range 0x5B 0x60, range 0x7B 0x7E])
  | "space" => some asciiBlank
  | "upper" => some asciiUpper
  | "word" => some asciiWord
  | "xdigit" => some (unions [asciiDigit, range 0x41 0x46, range 0x61 0x66])
  | _ => Option.none

/-- letters of a set moved by the distance between the two cases -/
def shiftedLetters (s letters : CharSet) (shift : Nat → Nat) : CharSet :=
  ⟨(s.inter letters).intervals.map fun i => ⟨shift i.first, shift i.last⟩⟩

/-- the set together with the other case of its ASCII letters -/
def asciiFolded (s : CharSet) : CharSet :=
  unions [s, shiftedLetters s asciiUpper (· + 32), shiftedLetters s asciiLower (· - 32)]

end CharSet

end DocumentQuery
