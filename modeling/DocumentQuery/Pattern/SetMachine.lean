/-
MACHINES of sets: how many states it takes to read one character of a set byte by byte, forward or backward.

States are numbered as they are made, and a state takes 32 bytes apart from its links. States that would be equal are
made once, as far as a memory with a fixed number of places remembers them: the place of a state follows from a hash of
what it does, and a state forgets the one that had its place before.
-/
import DocumentQuery.Unicode.ByteRange

namespace DocumentQuery

/-- what has been made of a machine -/
structure Machine where
  states : Nat
  /-- bytes that links between states take -/
  links : Nat
  deriving DecidableEq, Repr

namespace Machine

def bytes (m : Machine) : Nat := 32 * m.states + m.links

/-- adds states and bytes for links -/
def add (m : Machine) (states links : Nat) : Machine := ⟨m.states + states, m.links + links⟩

/-! ## Memories -/

/-- a 64-bit hash of some numbers -/
def hashOf (numbers : List Nat) : UInt64 :=
  numbers.foldl (fun h n => (h ^^^ n.toUInt64) * 1099511628211) 14695981039346656037

/-- a memory: at each place a state and what it does -/
abbrev Memory (α : Type) := Array (Option (α × Nat))

/-- a memory with the given number of places and nothing in it -/
def Memory.blank {α : Type} (places : Nat) : Memory α := .replicate places none

/-- the state at a place if it does what is asked for -/
def Memory.find? {α : Type} [DecidableEq α] (memory : Memory α) (place : Nat) (key : α) : Option Nat :=
  match memory[place]? with
  | some (some (k, state)) => if k = key then some state else none
  | _ => none

/-- the memory with a state and what it does at a place -/
def Memory.put {α : Type} (memory : Memory α) (place : Nat) (key : α) (state : Nat) : Memory α :=
  memory.setIfInBounds place (some (key, state))

/-! ## Forward -/

/-- ranges of bytes with the states that they lead to -/
abbrev Fork := List (ByteRange × Nat)

/-- a machine while a set is added to it -/
structure Forward where
  machine : Machine
  memory : Memory Fork

/-- places of the memory for forks -/
def forkPlaces : Nat := 10000

def forkPlace (fork : Fork) : Nat :=
  (hashOf (fork.flatMap fun e => [e.1.first, e.1.last, e.2])).toNat % forkPlaces

/-- the state that does what the fork says -/
def stateOfFork (w : Forward) (fork : Fork) : Nat × Forward :=
  let place := forkPlace fork
  match w.memory.find? place fork with
  | some state => (state, w)
  | none =>
    (w.machine.states, ⟨w.machine.add 1 (8 * fork.length), w.memory.put place fork w.machine.states⟩)

mutual

/-- the state that reads one of some rows, none of them longer than `length`, and goes on to `target` -/
def stateOfRows (target : Nat) : Nat → List (List ByteRange) → Forward → Nat × Forward
  | 0, _, w => (target, w)
  | length + 1, rows, w =>
    match rows with
    | [] :: _ => (target, w)
    | rows =>
      let (fork, w) := forkOfGroups target length (rows.splitBy fun a b => a.head? == b.head?) w
      stateOfFork w fork

/-- the links for groups of rows with the same first range -/
def forkOfGroups (target : Nat) (length : Nat) : List (List (List ByteRange)) → Forward → Fork × Forward
  | [], w => ([], w)
  | group :: groups, w =>
    let (next, w) := stateOfRows target length (group.map (·.drop 1)) w
    let (fork, w) := forkOfGroups target length groups w
    match group with
    | (r :: _) :: _ => ((r, next) :: fork, w)
    | _ => (fork, w)

end

/-- adds the states that read a character of the set with the given rows forward -/
def readForward (rows : List (List ByteRange)) (m : Machine) : Machine :=
  (stateOfRows m.states 4 rows ⟨m.add 1 0, .blank forkPlaces⟩).2.machine

/-! ## Backward -/

/-- a range of bytes and the state it leads to -/
abbrev Step := Nat × ByteRange

/-- a machine while a set is added to it -/
structure Backward where
  machine : Machine
  memory : Memory Step

/-- places of the memory for steps -/
def stepPlaces : Nat := 1000

def stepPlace (step : Step) : Nat := (hashOf [step.1, step.2.first, step.2.last]).toNat % stepPlaces

/-- the state that takes the step -/
def stateOfStep (w : Backward) (step : Step) : Nat × Backward :=
  let place := stepPlace step
  match w.memory.find? place step with
  | some state => (state, w)
  | none => (w.machine.states, ⟨w.machine.add 1 0, w.memory.put place step w.machine.states⟩)

/-- the states that read a row from its end, after which `target` follows -/
def stepsOfRow (target : Nat) (row : List ByteRange) (w : Backward) : Backward :=
  let w := (row.foldl (fun (next, w) r => stateOfStep w (next, r)) (target, w)).2
  { w with machine := w.machine.add 0 4 }

/-- adds the states that read a character of the set with the given rows backward: a choice and an end come first -/
def readBackward (rows : List (List ByteRange)) (m : Machine) : Machine :=
  (rows.foldl (fun w row => stepsOfRow (m.states + 1) row w) ⟨m.add 2 0, .blank stepPlaces⟩).machine

end Machine

end DocumentQuery
