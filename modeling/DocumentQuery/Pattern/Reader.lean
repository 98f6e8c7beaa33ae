/-
READING PATTERNS. The notation has literals, `.`, classes in brackets with set operations, `^` and `$`, escapes,
groups, flags, alternatives and repetitions; it has neither look-around nor back-references. A text that is not a
pattern, nests more than 250 deep or needs too much room is refused.

Flags are in force from where they stand to the end of the enclosing group, so the reader knows them at every character
and builds the pattern at once. Each reading step gets the rest of the text behind what it has read.
-/
import DocumentQuery.Pattern.Bracket
import DocumentQuery.Pattern.Room

namespace DocumentQuery.Pattern

/-! ## Repetitions -/

/-- a number with blanks around its digits; a number beyond 32 bits is refused -/
def readCount (f : Flags) (cs : List Char) : Option (Option Nat × List Char) :=
  let cs := cs.dropWhile Unicode.isBlank
  let (digits, rest) := go (cs.length + 1) [] cs
  let rest := rest.dropWhile Unicode.isBlank
  if digits.isEmpty then some (none, rest)
  else if decimalValue digits < Nat.pow 2 32 then some (some (decimalValue digits), rest)
  else none
where
  /-- digits at the front, blanks and comments skipped where they do not count -/
  go : Nat → List Char → List Char → List Char × List Char
    | 0, done, cs => (done.reverse, cs)
    | steps + 1, done, cs =>
      match cs with
      | c :: rest => if c.isDigit then go steps (c :: done) (skip f rest) else (done.reverse, cs)
      | [] => (done.reverse, [])

/-- bounds of a repetition behind its opening brace: `n`, `n,` or `n,m` -/
def readBounds (f : Flags) (cs : List Char) : Option (Nat × Option Nat × List Char) := do
  let (least, rest) ← readCount f (skip f cs)
  let least ← least
  match rest with
  | '\x7d' :: rest => some (least, some least, rest)
  | ',' :: rest =>
    match skip f rest with
    | '\x7d' :: rest => some (least, none, rest)
    | rest =>
      let (most, rest) ← readCount f rest
      let most ← most
      match rest with
      | '\x7d' :: rest => if least ≤ most then some (least, some most, rest) else none
      | _ => none
  | _ => none

/-- whether a repetition is greedy: it is unless a question mark follows, or the other way round -/
def readGreed (f : Flags) : List Char → Bool × List Char
  | '?' :: rest => (f.swapGreed, rest)
  | cs => (!f.swapGreed, cs)

/-- characters that repeat what stands in front of them -/
def isRepeater (c : Char) : Bool := c = '?' || c = '*' || c = '+' || c = '\x7b'

/-- bounds and greed of a repetition that begins with the given character -/
def readRepetition (f : Flags) (c : Char) (rest : List Char) : Option (Nat × Option Nat × Bool × List Char) :=
  match c with
  | '?' => some (0, some 1, readGreed f rest)
  | '*' => some (0, none, readGreed f rest)
  | '+' => some (1, none, readGreed f rest)
  | _ => (readBounds f rest).map fun (least, most, rest) => (least, most, readGreed f (skip f rest))

/-! ## Groups -/

/-- a pattern and how deep its notation nests; a flag setting in a sequence has no pattern -/
structure Part where
  pattern : Option Pattern
  depth : Nat

def Part.of (p : Pattern) : Part := ⟨some p, 0⟩

def Part.inGroup (part : Part) (numbered : Bool) : Part := ⟨part.pattern.map (.group numbered), part.depth + 1⟩

/-- the sequence of the parts read so far, in reverse -/
def sequenceOf (parts : List Part) : Part :=
  match parts with
  | [] => ⟨some .empty, 0⟩
  | [p] => ⟨some (p.pattern.getD .empty), p.depth⟩
  | ps => ⟨some (ps.foldl (fun q p => .seq (p.pattern.getD .empty) q) .empty),
      ps.foldl (fun d p => max d p.depth) 0 + 1⟩

/-- the alternatives read so far, in reverse -/
def choiceOf (branches : List Part) : Part :=
  match branches with
  | [] => ⟨some .empty, 0⟩
  | [p] => p
  | p :: ps => ⟨some (ps.foldl (fun q b => .alt (b.pattern.getD .empty) q) (p.pattern.getD .empty)),
      (p :: ps).foldl (fun d b => max d b.depth) 0 + 1⟩

/-- repeats the last part; there must be one, and not a flag setting -/
def repeatLast? (parts : List Part) (least : Nat) (most : Option Nat) (greedy : Bool) : Option (List Part) :=
  match parts with
  | ⟨some p, d⟩ :: rest => some (⟨some (.many least most greedy p), d + 1⟩ :: rest)
  | _ => none

/-- flag letters up to `:` or `)`, each at most once and at most one minus, which no letter may be missing behind -/
def readFlags : Nat → Flags → List Char → List Char → Option (Flags × List Char × List Char)
  | 0, _, _, _ => none
  | steps + 1, f, seen, cs =>
    match cs with
    | [] => none
    | c :: rest =>
      if c = ':' ∨ c = ')' then (if seen.head? = some '-' then none else some (f, seen, cs))
      else if seen.contains c then none
      else if c = '-' then readFlags steps f ('-' :: seen) rest
      else
        match f.put? c (!seen.contains '-') with
        | some f => readFlags steps f (c :: seen) rest
        | none => none

/-- letters, digits and some signs make up the name of a group; the first one is a letter or an underscore -/
def isNameChar (first : Bool) (c : Char) : Bool :=
  if first then c = '_' || Unicode.isAlphabetic c
  else c = '_' || c = '.' || c = '[' || c = ']' || Unicode.isAlphanumeric c

/-- the name of a group up to `>`; no two groups have one name -/
def readGroupName (names : List String) (cs : List Char) : Option (List String × List Char) :=
  let name := cs.takeWhile (· != '>')
  match cs.drop name.length, name with
  | '>' :: rest, c :: more =>
    let text := String.ofList name
    if isNameChar true c ∧ more.all (isNameChar false) ∧ text ∉ names then some (text :: names, rest) else none
  | _, _ => none

/-- what stands behind an opening parenthesis -/
inductive Opening where
  /-- flags for the rest of the enclosing group -/
  | setting (f : Flags)
  /-- a group with its own flags, whether it has a number, and the names of groups so far -/
  | group (f : Flags) (numbered : Bool) (names : List String)

/-- reads the beginning of a group -/
def readOpening (f : Flags) (names : List String) (cs : List Char) : Option (Opening × List Char) :=
  match skip f cs with
  | '?' :: 'P' :: '<' :: rest => (readGroupName names rest).map fun (names, rest) => (.group f true names, rest)
  | '?' :: '<' :: rest =>
    if rest.head? = some '=' ∨ rest.head? = some '!' then none
    else (readGroupName names rest).map fun (names, rest) => (.group f true names, rest)
  | '?' :: rest => do
    let (inner, seen, rest) ← readFlags (rest.length + 1) f [] rest
    match rest with
    | ')' :: rest => if seen.isEmpty then none else some (.setting inner, rest)
    | ':' :: rest => some (.group inner false names, rest)
    | _ => none
  | rest => some (.group f true names, rest)

/-! ## Sequences -/

/-- a character as a pattern; two hexadecimal digits without Unicode mean a byte, which must be ASCII -/
def charPattern? (f : Flags) (c : Char) (byte : Bool) : Option Pattern :=
  if f.unicode then some (.set (if f.ignoreCase then .ofChars (Unicode.caseVariants c) else .char c))
  else if c.toNat < 128 then some (.set (foldSet f (.char c)))
  else if byte then none
  else some (.set (.char c))

/-- the pattern of one item -/
def itemPattern? (f : Flags) : Item → Option Pattern
  | .char c byte => charPattern? f c byte
  | .set s => some (.set s)
  | .look a => some (.look a)

/-- `.` under the flags; it needs all of Unicode -/
def dot? (f : Flags) : Option Pattern :=
  if !f.unicode then none
  else if f.dotAll then some (.set .all)
  else if f.carriageReturn then some (.set .notLineBreak)
  else some (.set .notLineFeed)

/-- `^` under the flags -/
def caret (f : Flags) : Pattern :=
  .look (if !f.multiLine then .textStart else if f.carriageReturn then .breakStart else .lineStart)

/-- `$` under the flags -/
def dollar (f : Flags) : Pattern :=
  .look (if !f.multiLine then .textEnd else if f.carriageReturn then .breakEnd else .lineEnd)

/-- an item that is neither an operator nor a bracket -/
def readItem (f : Flags) : List Char → Option (Pattern × List Char)
  | [] => none
  | '\\' :: rest => do
    let (item, rest) ← readEscape f rest
    let p ← itemPattern? f item
    some (p, rest)
  | '.' :: rest => (dot? f).map (·, rest)
  | '^' :: rest => some (caret f, rest)
  | '$' :: rest => some (dollar f, rest)
  | c :: rest => (itemPattern? f (.char c false)).map (·, rest)

/-- alternatives up to a closing parenthesis or the end. `parts` is the current sequence and `branches` are the
alternatives before it, both in reverse. Every step reads at least one character, which bounds `steps` -/
def readChoice : Nat → Flags → List String → List Part → List Part → List Char →
    Option (Part × List String × List Char)
  | 0, _, _, _, _, _ => none
  | steps + 1, f, names, parts, branches, cs =>
    match skip f cs with
    | [] => some (choiceOf (sequenceOf parts :: branches), names, [])
    | ')' :: rest => some (choiceOf (sequenceOf parts :: branches), names, ')' :: rest)
    | '(' :: rest =>
      match readOpening f names rest with
      | some (.setting g, rest) => readChoice steps g names (⟨none, 0⟩ :: parts) branches rest
      | some (.group g numbered inner, rest) =>
        match readChoice steps g inner [] [] rest with
        | some (body, names, ')' :: rest) =>
          readChoice steps f names (body.inGroup numbered :: parts) branches rest
        | _ => none
      | none => none
    | '|' :: rest => readChoice steps f names [] (sequenceOf parts :: branches) rest
    | '[' :: rest =>
      match readClass f (rest.length + 1) rest with
      | some (s, rest) => readChoice steps f names (⟨some (.set s.set), s.depth⟩ :: parts) branches rest
      | none => none
    | c :: rest =>
      if isRepeater c then
        match readRepetition f c rest with
        | some (least, most, greedy, rest) =>
          match repeatLast? parts least most greedy with
          | some parts => readChoice steps f names parts branches rest
          | none => none
        | none => none
      else
        match readItem f (c :: rest) with
        | some (p, rest) => readChoice steps f names (Part.of p :: parts) branches rest
        | none => none

/-- deepest nesting that is read -/
def depthLimit : Nat := 250

/-- the pattern that a notation stands for under the given flags; none if it is refused -/
def read? (f : Flags) (text : String) : Option Pattern :=
  let cs := text.toList
  match readChoice (cs.length + 1) f [] [] [] cs with
  | some (⟨some p, depth⟩, _, []) => if depth ≤ depthLimit ∧ p.fits then some p else none
  | _ => none

end DocumentQuery.Pattern
