/-
PLANS: patterns in a form from which the size of their machine can be told. In a plan

- characters in a row are one text, and sequences do not nest;
- alternatives do not nest, alternatives of single characters or of sets are one set, and what all alternatives begin
  with stands in front of them;
- what can only match nothing is repeated at most once.
-/
import DocumentQuery.Pattern.Basic

namespace DocumentQuery

/-- a plan; a numbered group is kept, others are not -/
inductive Plan where
  | empty
  | text (cs : List Char)
  | set (s : CharSet)
  | look (a : Anchor)
  | many (least : Nat) (most : Option Nat) (greedy : Bool) (p : Plan)
  | group (p : Plan)
  | seq (ps : List Plan)
  | alt (ps : List Plan)

namespace Plan

/-- a set as a plan; a single character is a text -/
def ofSet (s : CharSet) : Plan :=
  match s.single? with
  | some c => .text [c]
  | none => .set s

/-! ## Lengths -/

mutual

/-- whether the plan matches the empty text and no other -/
def onlyEmpty : Plan → Bool
  | empty => true
  | text cs => cs.isEmpty
  | set _ => false
  | look _ => true
  | many _ _ _ p => onlyEmpty p
  | group p => onlyEmpty p
  | seq ps => allOnlyEmpty ps
  | alt ps => allOnlyEmpty ps

def allOnlyEmpty : List Plan → Bool
  | [] => true
  | p :: ps => onlyEmpty p && allOnlyEmpty ps

end

mutual

/-- length of the shortest match; unknown where a set is empty -/
def shortest? : Plan → Option Nat
  | empty => some 0
  | text cs => some cs.length
  | set s => if s.intervals.isEmpty then none else some 1
  | look _ => some 0
  | many least _ _ p => (shortest? p).map (least * ·)
  | group p => shortest? p
  | seq ps => shortestInRow? ps
  | alt ps => shortestAmong? ps

def shortestInRow? : List Plan → Option Nat
  | [] => some 0
  | p :: ps => do return (← shortest? p) + (← shortestInRow? ps)

def shortestAmong? : List Plan → Option Nat
  | [] => none
  | [p] => shortest? p
  | p :: ps => do return min (← shortest? p) (← shortestAmong? ps)

end

/-- whether no match is empty -/
def consumes (p : Plan) : Bool :=
  match p.shortest? with
  | some n => 0 < n
  | none => false

/-! ## Anchors at the ends -/

mutual

/-- whether every match begins at a place that meets the condition, as far as the form of the plan tells -/
def leads (a : Anchor) : Plan → Bool
  | look b => a = b
  | many least _ _ p => 0 < least && leads a p
  | group p => leads a p
  | seq ps => leadsRow a ps
  | alt ps => !ps.isEmpty && leadsAll a ps
  | _ => false

def leadsRow (a : Anchor) : List Plan → Bool
  | [] => false
  | p :: ps => leads a p || (onlyEmpty p && leadsRow a ps)

def leadsAll (a : Anchor) : List Plan → Bool
  | [] => true
  | p :: ps => leads a p && leadsAll a ps

end

mutual

/-- whether every match ends at a place that meets the condition, as far as the form of the plan tells -/
def trails (a : Anchor) : Plan → Bool
  | look b => a = b
  | many least _ _ p => 0 < least && trails a p
  | group p => trails a p
  | seq ps => trailsRow a ps
  | alt ps => !ps.isEmpty && trailsAll a ps
  | _ => false

def trailsRow (a : Anchor) : List Plan → Bool
  | [] => false
  | p :: ps => trailsRow a ps || (allOnlyEmpty ps && trails a p)

def trailsAll (a : Anchor) : List Plan → Bool
  | [] => true
  | p :: ps => trails a p && trailsAll a ps

end

/-! ## Sequences -/

/-- parts of a sequence -/
def units : Plan → List Plan
  | empty => []
  | seq ps => ps
  | p => [p]

/-- puts a part in front of a sequence; texts next to each other become one -/
def consUnit : Plan → List Plan → List Plan
  | text cs, text ds :: rest => text (cs ++ ds) :: rest
  | p, rest => p :: rest

/-- the sequence with the given parts -/
def ofUnits : List Plan → Plan
  | [] => empty
  | [p] => p
  | ps => seq ps

def append (p q : Plan) : Plan := ofUnits (p.units.foldr consUnit q.units)

/-! ## Choices -/

mutual

/-- whether two plans are the same; groups have different numbers and never are -/
def same : Plan → Plan → Bool
  | empty, empty => true
  | text cs, text ds => cs = ds
  | set s, set t => s = t
  | look a, look b => a = b
  | many m n g p, many m' n' g' q => m = m' && n = n' && g = g' && same p q
  | seq ps, seq qs => sameRow ps qs
  | alt ps, alt qs => sameRow ps qs
  | _, _ => false

def sameRow : List Plan → List Plan → Bool
  | [], [] => true
  | p :: ps, q :: qs => same p q && sameRow ps qs
  | _, _ => false

end

/-- alternatives without further choices directly among them -/
def flatten (ps : List Plan) : List Plan :=
  ps.flatMap fun
    | alt qs => qs
    | p => [p]

/-- the only character that a plan matches -/
def char? : Plan → Option Char
  | text [c] => some c
  | _ => none

def set? : Plan → Option CharSet
  | set s => some s
  | _ => none

/-- alternatives that are all single characters or all sets, as one set -/
def oneSet? (ps : List Plan) : Option CharSet :=
  (ps.mapM char?).map .ofChars <|> (ps.mapM set?).map .unions

/-- what two sequences both begin with -/
def commonUnits : List Plan → List Plan → List Plan
  | p :: ps, q :: qs => if same p q then p :: commonUnits ps qs else []
  | _, _ => []

/-- parts of a plan with more than one part -/
def row : Plan → List Plan
  | seq ps => ps
  | _ => []

/-- what all of the alternatives begin with, if they are sequences -/
def commonRow : List Plan → List Plan
  | [] => []
  | p :: ps => ps.foldl (fun us q => commonUnits us q.row) p.row

/-- a choice among at least two alternatives, in at most `steps` rounds of taking out what they begin with -/
def choiceWithin : Nat → List Plan → Plan
  | 0, ps => alt ps
  | steps + 1, ps =>
    let ps := flatten ps
    match oneSet? ps with
    | some s => ofSet s
    | none =>
      match commonRow ps with
      | [] => alt ps
      | us =>
        let rests := ps.map fun p => ofUnits (p.row.drop us.length)
        ofUnits (us.foldr consUnit (choiceWithin steps rests).units)

/-- a choice among alternatives; every round takes out a part, which bounds their number -/
def choice : List Plan → Plan
  | [p] => p
  | ps => choiceWithin ((ps.map fun p => p.units.length).foldl max 0 + 1) ps

/-! ## Repetitions -/

/-- a repetition; what can only match nothing need not be tried twice, and once is no repetition -/
def repetition (least : Nat) (most : Option Nat) (greedy : Bool) (p : Plan) : Plan :=
  let (least, most) := if p.onlyEmpty then (min least 1, some (min (most.getD 1) 1)) else (least, most)
  if most = some 0 then empty
  else if least = 1 ∧ most = some 1 then p
  else many least most greedy p

end Plan

namespace Pattern

/-- plans of the alternatives that a pattern chooses among -/
def branches : Pattern → List Plan
  | empty => [.empty]
  | set s => [.ofSet s]
  | look a => [.look a]
  | seq p q => [(Plan.choice p.branches).append (Plan.choice q.branches)]
  | alt p q => p.branches ++ q.branches
  | many least most greedy p => [.repetition least most greedy (.choice p.branches)]
  | group numbered p => [if numbered then .group (.choice p.branches) else .choice p.branches]

/-- the plan of a pattern -/
def plan (p : Pattern) : Plan := .choice p.branches

end Pattern

end DocumentQuery
