/-
CLASSES in brackets: single characters, ranges, ASCII classes and other classes in a row are united, and `&&`, `--` and
`~~` between them intersect, take away and tell apart.
-/
import DocumentQuery.Pattern.Item

namespace DocumentQuery.Pattern

/-- a set and how deep its notation nests -/
structure DeepSet where
  set : CharSet
  depth : Nat

/-- the union of the members read so far, in reverse -/
def unionOf (members : List DeepSet) : DeepSet :=
  match members with
  | [] => ⟨.none, 0⟩
  | [m] => m
  | ms => ⟨.unions (ms.reverse.map (·.set)), ms.foldl (fun d m => max d m.depth) 0 + 1⟩

/-- a set operation by its character, which is written twice -/
def setOperation? : Char → Option (CharSet → CharSet → CharSet)
  | '&' => some .inter
  | '-' => some .diff
  | '~' => some .either
  | _ => none

/-- the left operand and operation that wait for the right operand -/
abbrev Pending := Option (DeepSet × (CharSet → CharSet → CharSet))

/-- carries out the operation that waits, both sides made to ignore letter case first -/
def settle (f : Flags) (pending : Pending) (right : DeepSet) : DeepSet :=
  match pending with
  | none => right
  | some (left, op) => ⟨op (foldSet f left.set) (foldSet f right.set), max left.depth right.depth + 1⟩

/-- a character that may bound a range; without Unicode only ASCII can -/
def literal? (f : Flags) : Item → Option Char
  | .char c _ => if f.unicode ∨ c.toNat < 128 then some c else none
  | _ => none

/-- the set of a single member -/
def memberSet? (f : Flags) : Item → Option CharSet
  | .char c b => (literal? f (.char c b)).map .char
  | .set s => some s
  | .look _ => none

/-- one item inside of brackets -/
def readMember (f : Flags) : List Char → Option (Item × List Char)
  | [] => none
  | '\\' :: rest => readEscape f rest
  | c :: rest => some (.char c false, rest)

/-- a member or a range; a hyphen in front of a closing bracket or another hyphen makes no range -/
def readRange (f : Flags) (cs : List Char) : Option (DeepSet × List Char) := do
  let (first, rest) ← readMember f cs
  match skip f rest with
  | [] => none
  | '-' :: more =>
    if signBehind f more = some ']' ∨ signBehind f more = some '-' then
      let s ← memberSet? f first
      some (⟨s, 0⟩, '-' :: more)
    else
      let (last, rest) ← readMember f (skip f more)
      let a ← literal? f first
      let b ← literal? f last
      if a ≤ b then some (⟨.range a.toNat b.toNat, 0⟩, rest) else none
  | rest =>
    let s ← memberSet? f first
    some (⟨s, 0⟩, rest)

/-- an ASCII class `[:name:]` behind its opening bracket, if one stands there, and whether it is excluded -/
def readAsciiClass (f : Flags) (cs : List Char) : Option (CharSet × Bool × List Char) :=
  match cs with
  | ':' :: rest =>
    let (negated, rest) := match rest with
      | '^' :: r => (true, r)
      | r => (false, r)
    let name := rest.takeWhile (· != ':')
    match rest.drop name.length with
    | ':' :: ']' :: rest => (CharSet.ofAsciiName? (String.ofList name)).map (foldSet f ·, negated, rest)
    | _ => none
  | _ => none

/-- hyphens at the start of a class, which stand for themselves -/
def readHyphens (f : Flags) : Nat → List DeepSet → List Char → List DeepSet × List Char
  | 0, members, cs => (members, cs)
  | steps + 1, members, cs =>
    match cs with
    | '-' :: rest => readHyphens f steps (⟨.char '-', 0⟩ :: members) (skip f rest)
    | _ => (members, cs)

mutual

/-- a class behind its opening bracket: a caret excludes, leading hyphens and a first closing bracket are members -/
def readClass (f : Flags) : Nat → List Char → Option (DeepSet × List Char)
  | 0, _ => none
  | steps + 1, cs => do
    let (negated, cs) := match skip f cs with
      | '^' :: r => (true, skip f r)
      | r => (false, r)
    let (members, cs) := readHyphens f (cs.length + 1) [] cs
    let (members, cs) := match members, cs with
      | [], ']' :: r => ([⟨.char ']', 0⟩], skip f r)
      | ms, r => (ms, r)
    let (inside, rest) ← readMembers f steps none members cs
    let s ← negateIf? f negated (foldSet f inside.set)
    some (⟨s, inside.depth + 1⟩, rest)

/-- the members up to the closing bracket -/
def readMembers (f : Flags) : Nat → Pending → List DeepSet → List Char → Option (DeepSet × List Char)
  | 0, _, _, _ => none
  | steps + 1, pending, members, cs =>
    match skip f cs with
    | [] => none
    | ']' :: rest => some (settle f pending (unionOf members), rest)
    | '[' :: rest =>
      match readAsciiClass f rest with
      | some (s, negated, rest) =>
        match negateIf? f negated s with
        | some s => readMembers f steps pending (⟨s, 0⟩ :: members) rest
        | none => none
      | none =>
        match readClass f steps rest with
        | some (m, rest) => readMembers f steps pending (m :: members) rest
        | none => none
    | c :: rest =>
      match (if rest.head? = some c then setOperation? c else none) with
      | some op => readMembers f steps (some (settle f pending (unionOf members), op)) [] (rest.drop 1)
      | none =>
        match readRange f (c :: rest) with
        | some (m, rest) => readMembers f steps pending (m :: members) rest
        | none => none

end

end DocumentQuery.Pattern
