/-
OCCURRENCES of a pattern in a text. A pattern is searched for anywhere, and only whether it occurs matters.

Sets of places are natural numbers: bit `i` stands for the place in front of character `i`, the highest one for the end
of the text. A pattern is laid over the text once (`Pattern.track`), which finds the places where each of its parts can
take a step. `Track.reach` then maps a set of places to the places that can be reached from them.
-/
import DocumentQuery.Pattern.Basic

namespace DocumentQuery

/-! ## Sets of places -/

/-- places of a text, from the given left neighbour on, at which a condition on both neighbours holds -/
def placesWhere (holds : Option Char → Option Char → Bool) : Option Char → List Char → Nat
  | before, [] => (holds before none).toNat
  | before, c :: rest => (holds before (some c)).toNat + 2 * placesWhere holds (some c) rest

/-- every place of a text -/
def allPlaces (text : List Char) : Nat := Nat.pow 2 (text.length + 1) - 1

/-- `f` applied `n` times; it may stop early at a fixed point -/
def repeated (f : Nat → Nat) : Nat → Nat → Nat
  | 0, s => s
  | n + 1, s =>
    let t := f s
    if t = s then s else repeated f n t

/-- everything reached by applying `f` at most `n` times; it may stop early once nothing is added -/
def spread (f : Nat → Nat) : Nat → Nat → Nat
  | 0, s => s
  | n + 1, s =>
    let t := s ||| f s
    if t = s then s else spread f n t

/-! ## Patterns over a text -/

/-- a pattern laid over a text -/
inductive Track where
  | stay
  /-- goes from each of the places to the next one -/
  | step (places : Nat)
  /-- stays at each of the places -/
  | hold (places : Nat)
  | seq (p q : Track)
  | alt (p q : Track)
  | many (least : Nat) (most : Option Nat) (p : Track)

/-- the pattern laid over a text -/
def Pattern.track (text : List Char) : Pattern → Track
  | empty => .stay
  | set s => .step (placesWhere (fun _ after => after.any s.contains) none text)
  | look a => .hold (placesWhere a.holds none text)
  | seq p q => .seq (p.track text) (q.track text)
  | alt p q => .alt (p.track text) (q.track text)
  | many least most _ p => .many least most (p.track text)
  | group _ p => p.track text

/-- places that can be reached from the given ones; `size` is the number of places of the text -/
def Track.reach (size : Nat) : Track → Nat → Nat
  | stay, s => s
  | step places, s => (s &&& places) <<< 1
  | hold places, s => s &&& places
  | seq p q, s => q.reach size (p.reach size s)
  | alt p q, s => p.reach size s ||| q.reach size s
  | many least most p, s =>
    let t := repeated (p.reach size) least s
    match most with
    | some n => spread (p.reach size) (n - least) t
    | none => spread (p.reach size) size t

/-- whether the pattern occurs somewhere in the text -/
def Pattern.occursIn (p : Pattern) (text : String) : Bool :=
  (p.track text.toList).reach (text.toList.length + 1) (allPlaces text.toList) != 0

end DocumentQuery
