/-
BYTES of characters: the UTF-8 forms of the characters of an interval, as few rows of byte ranges as possible. A row
stands for every sequence of bytes that takes one byte from each of its ranges, and the rows are in the order of the
characters.
-/
import DocumentQuery.Unicode.CharSet

namespace DocumentQuery

/-- a closed interval of bytes -/
structure ByteRange where
  first : Nat
  last : Nat
  deriving DecidableEq, Repr

namespace ByteRange

def single (n : Nat) : ByteRange := ⟨n, n⟩

/-- every byte behind the first one of a character -/
def continuation : ByteRange := ⟨0x80, 0xBF⟩

/-- rows for the numbers from `a` to `b`, written with a first byte, which adds `lead`, and `rest` bytes of six bits
each: the part of a block at either end, and the whole blocks between them -/
def rows : Nat → Nat → Nat → Nat → List (List ByteRange)
  | 0, lead, a, b => [[⟨lead + a, lead + b⟩]]
  | rest + 1, lead, a, b =>
    let block := Nat.pow 64 (rest + 1)
    let x := a / block
    let y := b / block
    let part (z a b : Nat) := (rows rest 0x80 a b).map (single (lead + z) :: ·)
    if x = y then part x (a % block) (b % block)
    else
      let cutLeft := a % block != 0
      let cutRight := b % block != block - 1
      let u := if cutLeft then x + 1 else x
      let v := if cutRight then y - 1 else y
      (if cutLeft then part x (a % block) (block - 1) else []) ++
        (if u ≤ v then [⟨lead + u, lead + v⟩ :: List.replicate (rest + 1) continuation] else []) ++
        if cutRight then part y 0 (b % block) else []

/-- rows for the part of an interval that lies between two code points -/
def rowsBetween (first last rest lead : Nat) (i : Interval) : List (List ByteRange) :=
  if max first i.first ≤ min last i.last then rows rest lead (max first i.first) (min last i.last) else []

/-- rows for an interval: one byte below 80, two below 800, three below 10000, else four -/
def rowsOf (i : Interval) : List (List ByteRange) :=
  rowsBetween 0 0x7F 0 0 i ++ rowsBetween 0x80 0x7FF 1 0xC0 i ++ rowsBetween 0x800 0xFFFF 2 0xE0 i ++
    rowsBetween 0x10000 0x10FFFF 3 0xF0 i

end ByteRange

/-- rows for the characters of a set -/
def CharSet.byteRows (s : CharSet) : List (List ByteRange) := s.intervals.flatMap ByteRange.rowsOf

end DocumentQuery
