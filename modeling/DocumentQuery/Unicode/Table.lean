/-
TABLES OF CODE POINTS, written as text and read once. All numbers are hexadecimal and increase from left to right.

- a set table lists single code points, `first-last`, or `first-last/step` for every code point at that distance;
- a run table lists `start:label`, where a run lasts until the next one starts and `start:a+b` stands for code points
  that alternate between two labels.
-/
import DocumentQuery.Unicode.CharSet

namespace DocumentQuery.Unicode

/-! ## Reading -/

/-- value of a hexadecimal digit; other characters count as zero -/
def digitValue (c : Char) : Nat :=
  if '0' ≤ c ∧ c ≤ '9' then c.toNat - '0'.toNat
  else if 'a' ≤ c ∧ c ≤ 'f' then c.toNat - 'a'.toNat + 10
  else if 'A' ≤ c ∧ c ≤ 'F' then c.toNat - 'A'.toNat + 10
  else 0

/-- value of a hexadecimal number -/
def numberValue (digits : String) : Nat := digits.toList.foldl (fun n c => 16 * n + digitValue c) 0

/-- words of a table, over all of its lines -/
def words (lines : List String) : List String := lines.flatMap (·.splitOn " ")

/-- every code point from `first` to `last` at a distance of `step` -/
def progression (first last step : Nat) : List Interval :=
  if last < first then []
  else if step ≤ 1 then [⟨first, last⟩]
  else (List.range ((last - first) / step + 1)).map fun k => .single (first + step * k)

/-- the intervals that a word of a set table stands for -/
def intervalsOf (word : String) : List Interval :=
  match word.splitOn "-" with
  | [a, b] =>
    match b.splitOn "/" with
    | [b, step] => progression (numberValue a) (numberValue b) (numberValue step)
    | _ => [⟨numberValue a, numberValue b⟩]
  | _ => [.single (numberValue word)]

/-- the set that a table stands for -/
def setTable (lines : List String) : CharSet :=
  ⟨((words lines).flatMap intervalsOf).foldr (fun i l => CharSet.mergeIntervals [i] l) []⟩

/-- code points from `start` on, labelled `even` at even and `odd` at odd distance -/
structure Run where
  start : Nat
  even : String
  odd : String

def Run.ofWord (word : String) : Run :=
  match word.splitOn ":" with
  | [a, label] =>
    match label.splitOn "+" with
    | [x, y] => ⟨numberValue a, x, y⟩
    | _ => ⟨numberValue a, label, label⟩
  | _ => ⟨0, "", ""⟩

def runTable (lines : List String) : List Run := (words lines).map Run.ofWord

/-! ## Sets from runs -/

/-- code points of a run that ends in front of `stop` and whose labels are wanted -/
def Run.intervals (wanted : String → Bool) (r : Run) (stop : Nat) : List Interval :=
  match wanted r.even, wanted r.odd with
  | true, true => [⟨r.start, stop - 1⟩]
  | true, false => progression r.start (stop - 1) 2
  | false, true => progression (r.start + 1) (stop - 1) 2
  | false, false => []

/-- intervals of the runs whose labels are wanted; the last run lasts to the last code point -/
def wantedIntervals (wanted : String → Bool) : List Run → List Interval
  | [] => []
  | [r] => r.intervals wanted (CharSet.lastCode + 1)
  | r :: next :: rest =>
    (r.intervals wanted next.start).foldr (fun i l => CharSet.mergeIntervals [i] l)
      (wantedIntervals wanted (next :: rest))

/-- characters whose label is wanted -/
def charsLabelled (runs : List Run) (wanted : String → Bool) : CharSet := ⟨wantedIntervals wanted runs⟩

end DocumentQuery.Unicode
