/-
CALLS ON A BUILDER. A pipeline is built by any number of calls in any order. A call fills the slots that it is about and
takes the place of what was there; only constraints add up, and they do so inside of the filter.

- `satisfies_query_run`: a constrained filter judges by what it was at first and then by each constraint in turn;
- `run_ofFilter`: what a run leaves in the slots, from the constraints and the last call on each slot alone;
- `satisfies_build`, `canonical_build`: the pipeline of any run, its head and its order.
-/
import DocumentQuery.Proofs.ConstrainedFilters

namespace DocumentQuery

/-! ## Slots and calls -/

/-- slots of a builder; a selection and a search both go to the head -/
inductive Slot where
  | head
  | group
  | sort
  | skip
  | limit
  | projection
  deriving DecidableEq, Repr

/-- every slot, in the order of the stages -/
def Slot.all : List Slot := [head, group, sort, skip, limit, projection]

def Stage.slot : Stage → Slot
  | select _ => .head
  | near _ => .head
  | group _ => .group
  | sort _ => .sort
  | skip _ => .skip
  | limit _ => .limit
  | project _ => .projection

/-- one call on a builder -/
inductive BuilderCall where
  | constrain (predicate : Document)
  | group (grouping : Grouping)
  | sort (order : Option SortSpec)
  | skip (count : Option Count)
  | limit (count : Option Count)
  | window (w : Window)
  | exclude (fields : List String)
  | project (projection : Document)

namespace BuilderCall

/-- the slots that a call is about -/
def slots : BuilderCall → List Slot
  | constrain _ => [.head]
  | group _ => [.group]
  | sort _ => [.sort]
  | skip _ => [.skip]
  | limit _ => [.limit]
  | window _ => [.skip, .limit]
  | exclude _ => [.projection]
  | project _ => [.projection]

/-- the predicate that a call adds to the filter -/
def constraint? : BuilderCall → Option Document
  | constrain p => some p
  | _ => none

/-! What a call leaves in a slot; nothing if its argument is absent, zero or empty. -/

def grouping? : BuilderCall → Option Grouping
  | group g => some g
  | _ => none

def order? : BuilderCall → Option SortSpec
  | sort order => order
  | _ => none

def skipped? : BuilderCall → Option Count
  | skip n => PageSpec.positive? n
  | window w => PageSpec.positive? w.skip
  | _ => none

def limited? : BuilderCall → Option Count
  | limit n => PageSpec.positive? n
  | window w => PageSpec.positive? w.limit
  | _ => none

def projection? : BuilderCall → Option Document
  | exclude fields => nonEmpty? (PipelineBuilder.exclusion fields)
  | project p => nonEmpty? p
  | _ => none
where
  nonEmpty? (p : Document) : Option Document := if p.isEmpty then none else some p

/-- the predicates that calls add, in order and without the empty ones -/
def constraints (calls : List BuilderCall) : List Document := (calls.filterMap constraint?).filter (!·.isEmpty)

/-- the last call on a slot -/
def lastOn (calls : List BuilderCall) (slot : Slot) : Option BuilderCall :=
  (calls.filter fun c => slot ∈ c.slots).getLast?

end BuilderCall

/-! ## Runs -/

namespace PipelineBuilder

/-- a builder that starts with a filter, or with nothing -/
def start : Option CompiledFilter → PipelineBuilder
  | some f => ofFilter f
  | none => {}

def step (b : PipelineBuilder) : BuilderCall → PipelineBuilder
  | .constrain p => b.constrain p
  | .group g => b.group g
  | .sort order => b.sort order
  | .skip n => b.skip n
  | .limit n => b.limit n
  | .window w => b.window w
  | .exclude fields => b.exclude fields
  | .project p => b.project p

/-- calls one after another -/
def run (b : PipelineBuilder) (calls : List BuilderCall) : PipelineBuilder := calls.foldl step b

theorem run_cons (b : PipelineBuilder) (c : BuilderCall) (calls : List BuilderCall) :
    b.run (c :: calls) = (b.step c).run calls := rfl

theorem run_concat (b : PipelineBuilder) (calls : List BuilderCall) (c : BuilderCall) :
    b.run (calls ++ [c]) = (b.run calls).step c := by
  simp [run, List.foldl_append]

/-- only constraints change the filter -/
theorem filter_step (b : PipelineBuilder) (c : BuilderCall) :
    (b.step c).filter = c.constraint?.elim b.filter b.filter.constrain := by
  cases c <;> rfl

/-- the stages behind the head -/
def tail (b : PipelineBuilder) : Pipeline :=
  (b.grouping.map Stage.group).toList ++ (b.order.map Stage.sort).toList ++ (b.skipped.map Stage.skip).toList ++
    (b.limited.map Stage.limit).toList ++ (b.projection.map Stage.project).toList

theorem build_eq (b : PipelineBuilder) : b.build = b.filter.stage?.toList ++ b.tail := by
  simp [build, tail]

/-- a slot gives one stage of its own, or none -/
theorem slots_optional {α : Type} (stage : α → Stage) {slot : Slot} (h : ∀ a, (stage a).slot = slot) (o : Option α) :
    ((o.map stage).toList.map Stage.slot).Sublist [slot] := by
  cases o with
  | none => exact List.nil_sublist _
  | some a => simp [h a]

/-- behind the head there is at most one stage of each slot, in order -/
theorem slots_tail (b : PipelineBuilder) :
    (b.tail.map Stage.slot).Sublist [.group, .sort, .skip, .limit, .projection] := by
  have hgroup := slots_optional Stage.group (fun _ => rfl) b.grouping
  have hsort := slots_optional Stage.sort (fun _ => rfl) b.order
  have hskip := slots_optional Stage.skip (fun _ => rfl) b.skipped
  have hlimit := slots_optional Stage.limit (fun _ => rfl) b.limited
  have hproject := slots_optional Stage.project (fun _ => rfl) b.projection
  simp only [tail, List.map_append]
  exact (((hgroup.append hsort).append hskip).append hlimit).append hproject

theorem slot_ne_head {b : PipelineBuilder} {s : Stage} (h : s ∈ b.tail) : s.slot ≠ .head := by
  intro hslot
  have hmem := b.slots_tail.subset (List.mem_map_of_mem h)
  rw [hslot] at hmem
  exact absurd hmem (by decide)

end PipelineBuilder

/-! ## The head of a pipeline -/

namespace Pipeline

/-- what the head of a pipeline asks of documents; without a head it asks for nothing -/
def headPredicate : Pipeline → Document
  | .select p :: _ => p
  | .near a :: _ => a.query
  | _ => []

/-- the search at the head of a pipeline -/
def anchor? : Pipeline → Option ProximityAnchor
  | .near a :: _ => some a
  | _ => none

theorem head_of_ne_head {p : Pipeline} (h : ∀ s ∈ p, s.slot ≠ .head) : p.headPredicate = [] ∧ p.anchor? = none := by
  cases p with
  | nil => exact ⟨rfl, rfl⟩
  | cons s rest =>
    have hs := h s List.mem_cons_self
    cases s with
    | select p => exact absurd rfl hs
    | near a => exact absurd rfl hs
    | _ => exact ⟨rfl, rfl⟩

end Pipeline

theorem Pipeline.isAnchored_eq (p : Pipeline) : p.isAnchored = p.anchor?.isSome := by
  cases p with
  | nil => rfl
  | cons s rest => cases s <;> rfl

/-- the search of a filter that has one -/
def CompiledFilter.anchor? : CompiledFilter → Option ProximityAnchor
  | anchored a => some a
  | _ => none

theorem CompiledFilter.isAnchored_iff {f : CompiledFilter} : f.isAnchored = true ↔ ∃ a, f = .anchored a := by
  cases f <;> simp [isAnchored]

theorem CompiledFilter.isAnchored_eq (f : CompiledFilter) : f.isAnchored = f.anchor?.isSome := by
  cases f <;> rfl

namespace PipelineBuilder

/-- the head of a pipeline is its filter -/
theorem head_build (b : PipelineBuilder) :
    b.build.headPredicate = b.filter.query ∧ b.build.anchor? = b.filter.anchor? := by
  rw [build_eq]
  cases b.filter with
  | unconstrained => exact Pipeline.head_of_ne_head fun s => slot_ne_head
  | predicate p => exact ⟨rfl, rfl⟩
  | anchored a => exact ⟨rfl, rfl⟩

end PipelineBuilder

/-! ## Constraints in turn -/

/-- predicates judged one after another; the first that does not hold, or cannot be judged, ends it -/
def satisfiesInTurn (d : Document) : List Document → Verdict
  | [] => .ok true
  | p :: rest => do
    let ok ← satisfies d p
    if ok then satisfiesInTurn d rest else .ok false

theorem satisfiesInTurn_single (d p : Document) : satisfiesInTurn d [p] = satisfies d p := by
  rw [satisfiesInTurn, satisfiesInTurn]
  cases satisfies d p with
  | error e => rfl
  | ok b => cases b <;> rfl

namespace CompiledFilter

theorem satisfiesInTurn_constrain (f : CompiledFilter) (p d : Document) (rest : List Document) :
    satisfiesInTurn d ((f.constrain p).query :: rest) = satisfiesInTurn d (f.query :: p :: rest) := by
  rw [satisfiesInTurn, satisfiesInTurn, satisfiesInTurn, satisfies_query_constrain]
  cases satisfies d f.query with
  | error e => rfl
  | ok b => cases b <;> rfl

theorem anchor?_query (f : CompiledFilter) : f.anchor? = f.anchor?.map fun a => { a with query := f.query } := by
  cases f <;> rfl

/-- a constraint changes the query of a search and nothing else -/
theorem anchor?_constrain (f : CompiledFilter) (p : Document) :
    (f.constrain p).anchor? = f.anchor?.map fun a => { a with query := (f.constrain p).query } := by
  unfold constrain
  split
  · cases f <;> rfl
  · cases f <;> rfl

end CompiledFilter

namespace PipelineBuilder

/-- a run judges by the filter that it started with and then by each constraint in turn -/
theorem satisfies_query_run (b : PipelineBuilder) (calls : List BuilderCall) (d : Document) :
    satisfies d (b.run calls).filter.query =
      satisfiesInTurn d (b.filter.query :: calls.filterMap BuilderCall.constraint?) := by
  induction calls generalizing b with
  | nil => exact (satisfiesInTurn_single d b.filter.query).symm
  | cons c calls ih =>
    rw [run_cons, ih, filter_step, List.filterMap_cons]
    cases c.constraint? with
    | none => rfl
    | some p => exact b.filter.satisfiesInTurn_constrain p d _

/-- a search stays what it is throughout a run, apart from its query -/
theorem anchor?_run (b : PipelineBuilder) (calls : List BuilderCall) :
    (b.run calls).filter.anchor? =
      b.filter.anchor?.map fun a => { a with query := (b.run calls).filter.query } := by
  induction calls generalizing b with
  | nil => exact b.filter.anchor?_query
  | cons c calls ih =>
    have hstep : (b.step c).filter.anchor? =
        b.filter.anchor?.map fun a => { a with query := (b.step c).filter.query } := by
      rw [filter_step]
      cases c.constraint? with
      | none => exact b.filter.anchor?_query
      | some p => exact b.filter.anchor?_constrain p
    rw [run_cons, ih, hstep, Option.map_map]
    rfl

/-- **Constraints mean conjunction.** Whatever the calls, the head of the pipeline judges a document by the filter that
the builder started with and then by the constraints in their order; the first of these that does not hold, or cannot be
judged, decides. A search stays at the head, and only its query changes. -/
theorem satisfies_build (f : CompiledFilter) (calls : List BuilderCall) :
    let p := ((ofFilter f).run calls).build
    (∀ d, satisfies d p.headPredicate = satisfiesInTurn d (f.query :: calls.filterMap BuilderCall.constraint?)) ∧
      p.anchor? = f.anchor?.map fun a => { a with query := p.headPredicate } := by
  intro p
  obtain ⟨hquery, hanchor⟩ := head_build ((ofFilter f).run calls)
  refine ⟨fun d => ?_, ?_⟩
  · rw [hquery]
    exact satisfies_query_run (ofFilter f) calls d
  · rw [hquery, hanchor]
    exact anchor?_run (ofFilter f) calls

/-! ## What a run leaves in the slots -/

/-- a builder with these constraints on a filter and with what a last call on each slot leaves there -/
def ofLast (f : CompiledFilter) (constraints : List Document) (last : Slot → Option BuilderCall) : PipelineBuilder where
  filter := constraints.foldl CompiledFilter.constrain f
  grouping := (last .group).bind BuilderCall.grouping?
  order := (last .sort).bind BuilderCall.order?
  skipped := (last .skip).bind BuilderCall.skipped?
  limited := (last .limit).bind BuilderCall.limited?
  projection := (last .projection).bind BuilderCall.projection?

end PipelineBuilder

theorem PipelineBuilder.ofLast_congr {f : CompiledFilter} {constraints : List Document}
    {last last' : Slot → Option BuilderCall} (h : ∀ slot ≠ .head, last' slot = last slot) :
    ofLast f constraints last' = ofLast f constraints last := by
  simp only [ofLast, h .group (by decide), h .sort (by decide), h .skip (by decide), h .limit (by decide),
    h .projection (by decide)]

theorem BuilderCall.lastOn_concat (calls : List BuilderCall) (c : BuilderCall) (slot : Slot) :
    lastOn (calls ++ [c]) slot = if slot ∈ c.slots then some c else lastOn calls slot := by
  unfold lastOn
  rw [List.filter_append]
  by_cases h : slot ∈ c.slots <;> simp [h]

namespace PipelineBuilder

/-- constraints add up in the filter; empty ones do nothing -/
theorem filter_run (b : PipelineBuilder) (calls : List BuilderCall) :
    (b.run calls).filter = (BuilderCall.constraints calls).foldl CompiledFilter.constrain b.filter := by
  induction calls generalizing b with
  | nil => rfl
  | cons c calls ih =>
    rw [run_cons, ih, filter_step, BuilderCall.constraints, BuilderCall.constraints, List.filterMap_cons]
    cases c.constraint? with
    | none => rfl
    | some p =>
      by_cases hp : p.isEmpty = true
      · have hsame : b.filter.constrain p = b.filter := if_pos hp
        simp [hsame, hp]
      · simp [hp]

/-- a slot that each call about it fills anew holds what the last of these calls leaves -/
theorem run_slot {α : Type} (get : PipelineBuilder → Option α) (given : BuilderCall → Option α) (slot : Slot)
    (hstep : ∀ b c, get (b.step c) = if slot ∈ c.slots then given c else get b) {b : PipelineBuilder}
    (hfree : get b = none) (calls : List BuilderCall) :
    get (b.run calls) = (BuilderCall.lastOn calls slot).bind given := by
  induction calls using List.reverseRecOn with
  | nil => exact hfree
  | append_singleton calls c ih =>
    rw [run_concat, hstep, BuilderCall.lastOn_concat, ih]
    split <;> rfl

/-- **What a run leaves.** The constraints, in order, and what the last call on each other slot leaves there. -/
theorem run_ofFilter (f : CompiledFilter) (calls : List BuilderCall) :
    (ofFilter f).run calls = ofLast f (BuilderCall.constraints calls) (BuilderCall.lastOn calls) := by
  have hfilter := filter_run (ofFilter f) calls
  have hgrouping : ((ofFilter f).run calls).grouping = _ :=
    run_slot grouping BuilderCall.grouping? .group (fun b c => by cases c <;> rfl) rfl calls
  have horder : ((ofFilter f).run calls).order = _ :=
    run_slot order BuilderCall.order? .sort (fun b c => by cases c <;> rfl) rfl calls
  have hskipped : ((ofFilter f).run calls).skipped = _ :=
    run_slot skipped BuilderCall.skipped? .skip (fun b c => by cases c <;> rfl) rfl calls
  have hlimited : ((ofFilter f).run calls).limited = _ :=
    run_slot limited BuilderCall.limited? .limit (fun b c => by cases c <;> rfl) rfl calls
  have hprojection : ((ofFilter f).run calls).projection = _ :=
    run_slot projection BuilderCall.projection? .projection (fun b c => by cases c <;> rfl) rfl calls
  generalize (ofFilter f).run calls = b at *
  obtain ⟨filter, grouping, order, skipped, limited, projection⟩ := b
  subst hfilter hgrouping horder hskipped hlimited hprojection
  rfl

theorem start_eq (first : Option CompiledFilter) : start first = ofFilter (first.getD .unconstrained) := by
  cases first <;> rfl

/-! ## Pipelines in order -/

end PipelineBuilder

/-- a pipeline as a store takes it: a search only at the head, and only if there is to be one -/
structure Pipeline.Canonical (anchored : Bool) (p : Pipeline) : Prop where
  /-- at most one stage of each slot, in the order of the slots -/
  slots : (p.map Stage.slot).Sublist Slot.all
  near : (∃ a, Stage.near a ∈ p) ↔ anchored = true
  first : p.isAnchored = anchored
  alone : ∀ a q, Stage.near a ∈ p → Stage.select q ∉ p
  positive : ∀ n, Stage.skip n ∈ p ∨ Stage.limit n ∈ p → 0 < n

namespace PipelineBuilder

section

variable {b : PipelineBuilder}

theorem near_mem_build {a : ProximityAnchor} : Stage.near a ∈ b.build ↔ b.filter = .anchored a := by
  rw [build_eq, List.mem_append, or_iff_left fun h => slot_ne_head h rfl]
  cases b.filter <;> simp [CompiledFilter.stage?, eq_comm]

theorem select_mem_build {q : Document} : Stage.select q ∈ b.build ↔ b.filter = .predicate q := by
  rw [build_eq, List.mem_append, or_iff_left fun h => slot_ne_head h rfl]
  cases b.filter <;> simp [CompiledFilter.stage?, eq_comm]

theorem skip_mem_build {n : Count} : Stage.skip n ∈ b.build ↔ b.skipped = some n := by
  cases hf : b.filter <;> simp [build, hf, CompiledFilter.stage?]

theorem limit_mem_build {n : Count} : Stage.limit n ∈ b.build ↔ b.limited = some n := by
  cases hf : b.filter <;> simp [build, hf, CompiledFilter.stage?]

end

theorem slots_build (b : PipelineBuilder) : (b.build.map Stage.slot).Sublist Slot.all := by
  rw [build_eq, List.map_append]
  have hhead : (b.filter.stage?.toList.map Stage.slot).Sublist [.head] := by
    cases b.filter with
    | unconstrained => exact List.nil_sublist _
    | predicate q => exact List.Sublist.refl _
    | anchored a => exact List.Sublist.refl _
  exact hhead.append b.slots_tail

theorem isAnchored_build (b : PipelineBuilder) : b.build.isAnchored = b.filter.isAnchored := by
  rw [Pipeline.isAnchored_eq, CompiledFilter.isAnchored_eq, b.head_build.2]

theorem isAnchored_run (b : PipelineBuilder) (calls : List BuilderCall) :
    (b.run calls).filter.isAnchored = b.filter.isAnchored := by
  rw [CompiledFilter.isAnchored_eq, anchor?_run, Option.isSome_map, CompiledFilter.isAnchored_eq]

/-- no call leaves a skip or a limit of zero -/
theorem positive_run (f : CompiledFilter) (calls : List BuilderCall) {n : Count}
    (h : ((ofFilter f).run calls).skipped = some n ∨ ((ofFilter f).run calls).limited = some n) : 0 < n := by
  rw [run_ofFilter] at h
  rcases h with h | h
  · obtain ⟨c, -, hc⟩ := Option.bind_eq_some_iff.1 h
    cases c with
    | skip m => exact PageSpec.pos_of_positive? hc
    | window w => exact PageSpec.pos_of_positive? hc
    | _ => cases hc
  · obtain ⟨c, -, hc⟩ := Option.bind_eq_some_iff.1 h
    cases c with
    | limit m => exact PageSpec.pos_of_positive? hc
    | window w => exact PageSpec.pos_of_positive? hc
    | _ => cases hc

theorem canonical_run (f : CompiledFilter) (calls : List BuilderCall) :
    ((ofFilter f).run calls).build.Canonical f.isAnchored := by
  have hanchored := isAnchored_run (ofFilter f) calls
  refine ⟨slots_build _, ?_, ?_, ?_, ?_⟩
  · simp only [near_mem_build]
    rw [← CompiledFilter.isAnchored_iff, hanchored]
    rfl
  · rw [isAnchored_build, hanchored]
    rfl
  · intro a q ha hq
    rw [near_mem_build] at ha
    rw [select_mem_build, ha] at hq
    cases hq
  · intro n hn
    rw [skip_mem_build, limit_mem_build] at hn
    exact positive_run f calls hn

end PipelineBuilder

namespace BuilderCall

/-- calls on different slots are not both constraints -/
theorem constraint?_of_disjoint {c d : BuilderCall} (h : c.slots.Disjoint d.slots) :
    c.constraint? = none ∨ d.constraint? = none := by
  cases c with
  | constrain p =>
    cases d with
    | constrain q => exact absurd List.mem_cons_self (h List.mem_cons_self)
    | _ => exact Or.inr rfl
  | _ => exact Or.inl rfl

theorem constraints_swap {c d : BuilderCall} (h : c.slots.Disjoint d.slots) (before after : List BuilderCall) :
    constraints (before ++ d :: c :: after) = constraints (before ++ c :: d :: after) := by
  rcases constraint?_of_disjoint h with hc | hd
  · simp [constraints, List.filterMap_cons, hc]
  · simp [constraints, List.filterMap_cons, hd]

theorem lastOn_swap {c d : BuilderCall} (h : c.slots.Disjoint d.slots) (before after : List BuilderCall) (slot : Slot) :
    lastOn (before ++ d :: c :: after) slot = lastOn (before ++ c :: d :: after) slot := by
  unfold lastOn
  by_cases hc : slot ∈ c.slots
  · have hd : slot ∉ d.slots := h hc
    simp [List.filter_cons, hd]
  · simp [List.filter_cons, hc]

end BuilderCall

namespace PipelineBuilder

/-- **Any calls, one order.** However a builder starts and whatever is called on it, its pipeline has at most one stage
of each slot, in the order of the slots; a search exactly if the first filter was one, then first and without a
selection; and no skip or limit of zero. It is made of the first filter, the constraints that are not empty and the last
call on each other slot, and so it is the same for calls that agree in these, and for calls on different slots the other
way round. -/
theorem canonical_build (first : Option CompiledFilter) (calls : List BuilderCall) :
    let b := (start first).run calls
    b.build.Canonical (first.any CompiledFilter.isAnchored) ∧
      b = ofLast (first.getD .unconstrained) (BuilderCall.constraints calls) (BuilderCall.lastOn calls) ∧
      (∀ calls', BuilderCall.constraints calls' = BuilderCall.constraints calls →
        (∀ slot ≠ .head, BuilderCall.lastOn calls' slot = BuilderCall.lastOn calls slot) →
          ((start first).run calls').build = b.build) ∧
      ∀ before c d after, calls = before ++ c :: d :: after → c.slots.Disjoint d.slots →
        ((start first).run (before ++ d :: c :: after)).build = b.build := by
  intro b
  have hanchored : first.any CompiledFilter.isAnchored = (first.getD .unconstrained).isAnchored := by
    cases first <;> rfl
  have hrun : ∀ calls, (start first).run calls = ofLast (first.getD .unconstrained) (BuilderCall.constraints calls)
      (BuilderCall.lastOn calls) := by
    intro calls
    rw [start_eq, run_ofFilter]
  have hsame : ∀ calls', BuilderCall.constraints calls' = BuilderCall.constraints calls →
      (∀ slot ≠ .head, BuilderCall.lastOn calls' slot = BuilderCall.lastOn calls slot) →
        ((start first).run calls').build = b.build := by
    intro calls' hconstraints hlast
    rw [hrun calls', hconstraints, ofLast_congr hlast, ← hrun calls]
  refine ⟨?_, hrun calls, hsame, ?_⟩
  · rw [hanchored, show b = (ofFilter (first.getD .unconstrained)).run calls by rw [← start_eq]]
    exact canonical_run _ calls
  · rintro before c d after rfl hslots
    exact hsame _ (BuilderCall.constraints_swap hslots before after) fun slot _ =>
      BuilderCall.lastOn_swap hslots before after slot

/-- a limit, a skip and a constraint around a search; the skip is taken back at the end -/
theorem canonical_build_search :
    let first : Option CompiledFilter := some (.anchored (.new (-73.9) 40.7 500.0 {}))
    let named : Document := Document.single "name" (.obj (Document.single "$ne" (.str "")))
    let calls : List BuilderCall := [.limit (some 5), .skip (some 3), .constrain named, .constrain [], .skip (some 0)]
    let shorter : List BuilderCall := [.constrain named, .limit (some 5), .skip none]
    let swapped : List BuilderCall := [.skip (some 3), .limit (some 5), .constrain named, .constrain [], .skip (some 0)]
    ((start first).run calls).build.Canonical true ∧
      ((start first).run calls).build.map Stage.kind = [.near, .limit] ∧
      ((start first).run (shorter ++ [.skip (some 0)])).build = ((start first).run calls).build ∧
      ((start first).run swapped).build = ((start first).run calls).build := by
  intro first named calls shorter swapped
  obtain ⟨hcanonical, -, hsame, hswap⟩ := canonical_build first calls
  refine ⟨hcanonical, rfl, hsame _ rfl fun slot hslot => ?_, hswap [] (.limit (some 5)) (.skip (some 3)) _ rfl ?_⟩
  · cases slot with
    | head => exact absurd rfl hslot
    | _ => rfl
  · intro slot hlimit hskip
    cases hlimit with
    | head => exact absurd hskip (by decide)
    | tail _ h => cases h

end PipelineBuilder

end DocumentQuery
