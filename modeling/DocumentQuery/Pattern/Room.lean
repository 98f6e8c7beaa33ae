/-
ROOM that the machines of a pattern take. There are two of them, one that reads texts forward and one that reads them
backward; a pattern fits if neither takes more than ten mebibytes.

A machine is made from the plan of the pattern, part by part, and every copy that a repetition needs is made anew. A
state of it is a fork, a range of bytes, a condition on the place or a step that reads nothing; `Machine.add` says how
much room each part takes.
-/
import DocumentQuery.Pattern.Plan
import DocumentQuery.Pattern.SetMachine

namespace DocumentQuery

/-- the direction in which a machine reads a text -/
inductive Direction where
  | forward
  | backward
  deriving DecidableEq, Repr

/-- room that a machine may take: ten mebibytes -/
def roomLimit : Nat := 10 * Nat.pow 2 20

namespace Machine

/-- how a part of a machine ends; only a fork takes room for the link to the part behind it -/
inductive End where
  | fork
  | plain
  deriving DecidableEq, Repr

/-- bytes of the link from the end of a part -/
def End.link : End → Nat
  | fork => 4
  | plain => 0

/-- a machine within its limit, and how its last part ends -/
abbrev Made := Option (Machine × End)

def made (m : Machine) (e : End) : Made := if m.bytes ≤ roomLimit then some (m, e) else none

/-- a part of a machine, to be added as often as it is needed -/
structure Part where
  add : Machine → Made

/-- a part that reads nothing -/
def Part.pass : Part := ⟨fun m => made (m.add 1 0) .plain⟩

/-! ## Choices among texts -/

/-- the texts in front of, between and behind empty ones; an empty text counts once where nothing precedes it -/
def chunks {α : Type} : List (List α) → List (List (List α))
  | [] => [[]]
  | [] :: [] :: rest => chunks ([] :: rest)
  | [] :: rest => [] :: chunksBehind [] rest
  | t :: rest => chunksBehind [t] rest
where
  /-- chunks of which the first one begins with the given texts -/
  chunksBehind (current : List (List α)) : List (List α) → List (List (List α))
    | [] => [current]
    | [] :: rest => current :: chunksBehind [] rest
    | t :: rest => chunksBehind (current ++ [t]) rest

/-- texts behind a first byte -/
def textsBehind (b : UInt8) (texts : List (List UInt8)) : List (List UInt8) :=
  texts.filterMap fun
    | c :: rest => if c = b then some rest else none
    | [] => none

/-- adds the states that read one of some texts, none of them longer than `length`: each state has a chunk of first
bytes, and a fork connects the chunks and the ends of texts between them -/
def readTexts : Nat → List (List UInt8) → Machine → Machine
  | 0, _, m => m
  | length + 1, texts, m =>
    let all := chunks texts
    let filled := all.filter (!·.isEmpty)
    let m := filled.foldl (fun m chunk =>
      let bytes := (chunk.filterMap (·.head?)).eraseDups
      let m := m.add 1 (if bytes.length = 1 then 0 else 8 * bytes.length)
      bytes.foldl (fun m b =>
        let rests := textsBehind b chunk
        if rests.all (·.isEmpty) then m else readTexts length rests m) m) m
    m.add 1 (4 * (filled.length + (all.length - 1)))

/-- bytes of a text in the direction of reading -/
def textBytes (d : Direction) (cs : List Char) : List UInt8 :=
  let bytes := cs.flatMap String.utf8EncodeChar
  match d with
  | .forward => bytes
  | .backward => bytes.reverse

/-- the texts that alternatives are, if there are at least two and they are nothing else -/
def textsOf? (ps : List Plan) : Option (List (List Char)) :=
  match ps with
  | _ :: _ :: _ => ps.mapM fun
    | .text cs => some cs
    | _ => none
  | _ => none

/-! ## Plans -/

/-- the states that read a character of a set -/
def Part.ofSet (d : Direction) (s : CharSet) : Part :=
  if s.isAscii then
    let ranges := s.intervals.length
    ⟨fun m => made (m.add 2 (8 * ranges)) .plain⟩
  else
    let rows := s.byteRows
    match d with
    | .forward => ⟨fun m => made (readForward rows m) .plain⟩
    | .backward => ⟨fun m => made (readBackward rows m) .plain⟩

/-- the states that read one of some texts -/
def Part.ofTexts (texts : List (List UInt8)) : Part :=
  ⟨fun m => made (readTexts ((texts.map (·.length)).foldl max 0 + 1) texts (m.add 1 0)) .plain⟩

/-- adds a part `n` times behind another -/
def again (p : Part) : Nat → Machine → End → Made
  | 0, m, e => made m e
  | n + 1, m, e => do
    let (m, e) ← p.add (m.add 0 e.link)
    again p n m e

/-- adds a part `n` times in a row -/
def copies (p : Part) (m : Machine) : Nat → Made
  | 0 => Part.pass.add m
  | n + 1 => do
    let (m, e) ← p.add m
    again p n m e

/-- adds a part up to `n` times, each time behind a fork that leads to the end, too -/
def options (p : Part) : Nat → Machine → End → Made
  | 0, m, e => made (m.add 0 e.link) .plain
  | n + 1, m, e => do
    let (m, e) ← p.add (m.add 1 (e.link + 8))
    options p n m e

/-- a repetition of a part, of which `consumes` says that no match of it is empty -/
def Part.repetition (least : Nat) (most : Option Nat) (consumes : Bool) (p : Part) : Part :=
  match most with
  | none =>
    if 0 < least then ⟨fun m => do
      let (m, e) ← copies p m least
      made (m.add 1 (e.link + 4)) .fork⟩
    else if consumes then ⟨fun m => do
      let (m, e) ← p.add (m.add 1 0)
      made (m.add 0 (e.link + 4)) .fork⟩
    else ⟨fun m => do
      let (m, e) ← p.add m
      made (m.add 3 (e.link + 16)) .plain⟩
  | some most =>
    if least = 0 ∧ most = 1 then ⟨fun m => do
      let (m, e) ← p.add (m.add 1 0)
      made (m.add 1 (e.link + 8)) .plain⟩
    else ⟨fun m => do
      let (m, e) ← copies p m least
      if least = most then made m e else options p (most - least) (m.add 1 0) e⟩

/-- a part between the states that note where a group begins and ends -/
def Part.grouped (p : Part) : Part :=
  ⟨fun m => do
    let (m, e) ← p.add (m.add 1 0)
    made (m.add 1 e.link) .plain⟩

/-- one part and then another -/
def Part.before (p q : Part) : Part :=
  ⟨fun m => do
    let (m, e) ← p.add m
    q.add (m.add 0 e.link)⟩

/-- adds further alternatives -/
def addBranches : List Part → Machine → Made
  | [], m => made m .plain
  | p :: ps, m => do
    let (m, e) ← p.add m
    addBranches ps (m.add 0 (e.link + 4))

/-- a choice among parts; the fork and its end come behind the first two -/
def Part.choice : List Part → Part
  | [] => .pass
  | [p] => p
  | p :: q :: rest => ⟨fun m => do
      let (m, e) ← p.add m
      let (m, e') ← q.add m
      addBranches rest (m.add 2 (e.link + e'.link + 8))⟩

mutual

/-- the part of a machine for a plan -/
def Part.ofPlan (d : Direction) : Plan → Part
  | .empty => .pass
  | .text cs =>
    let size := (textBytes d cs).length
    ⟨fun m => made (m.add size 0) .plain⟩
  | .set s => .ofSet d s
  | .look _ => .pass
  | .many least most _ p => .repetition least most p.consumes (Part.ofPlan d p)
  | .group p =>
    match d with
    | .forward => (Part.ofPlan d p).grouped
    | .backward => Part.ofPlan d p
  | .seq ps => Part.ofRow d ps
  | .alt ps =>
    match textsOf? ps with
    | some texts => .ofTexts (texts.map (textBytes d))
    | none => .choice (Part.ofEach d ps)

/-- the part for plans in a row, in the direction of reading -/
def Part.ofRow (d : Direction) : List Plan → Part
  | [] => .pass
  | [p] => Part.ofPlan d p
  | p :: q :: rest =>
    match d with
    | .forward => (Part.ofPlan d p).before (Part.ofRow d (q :: rest))
    | .backward => (Part.ofRow d (q :: rest)).before (Part.ofPlan d p)

/-- the parts for some plans -/
def Part.ofEach (d : Direction) : List Plan → List Part
  | [] => []
  | p :: ps => Part.ofPlan d p :: Part.ofEach d ps

end

/-- whether reading can only begin at the end of the text where the machine starts -/
def isAnchored (d : Direction) (p : Plan) : Bool :=
  match d with
  | .forward => p.leads .textStart
  | .backward => p.trails .textEnd

/-- the machine of a plan: reading begins anywhere unless the plan is anchored, and the whole match is a group -/
def ofPlan (d : Direction) (p : Plan) : Made := do
  let start : Machine := if isAnchored d p then ⟨1, 0⟩ else ⟨3, 16⟩
  let (m, e) ← (Part.ofPlan d (.group p)).add start
  made (m.add 1 e.link) .plain

/-! ## Estimates -/

mutual

/-- no fewer bytes than either machine needs for a plan -/
def estimate : Plan → Nat
  | .empty => 36
  | .text cs => 400 * cs.length
  | .set s => if s.isAscii then 72 + 8 * s.intervals.length else 72 + 4096 * s.intervals.length
  | .look _ => 36
  | .many least most _ p => 160 + (estimate p + 48) * max (most.getD least) 1
  | .group p => 72 + estimate p
  | .seq ps => 36 + estimateRow ps
  | .alt ps => 80 + estimateRow ps

def estimateRow : List Plan → Nat
  | [] => 0
  | p :: ps => 8 + estimate p + estimateRow ps

end

end Machine

/-- whether both machines of a pattern are small enough; they need not be made where a rough estimate tells -/
def Pattern.fits (p : Pattern) : Bool :=
  let plan := p.plan
  Machine.estimate plan + 256 ≤ roomLimit ||
    ((Machine.ofPlan .forward plan).isSome && (Machine.ofPlan .backward plan).isSome)

end DocumentQuery
