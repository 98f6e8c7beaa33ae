/-
COMBINED FILTERS ON DOCUMENTS. A combined filter means what its combinator says of its elements: all of them hold, some
of them does, or none does. Without elements it asks for nothing, whatever the combinator.

- `satisfies_combine_exhausted`: joined predicates are judged to their end if each of them leaves the verdict open;
- `CombinedFilter.compile_eq_ok_iff`: which combined filters are accepted, and what comes of them;
- `CombinedFilter.means_combinator`: the verdict on a document from the verdicts of the elements, whose order and
  repetition do not matter.
-/
import DocumentQuery.Proofs.CompiledFilters
import DocumentQuery.Proofs.Selection

namespace DocumentQuery

/-! ## Joined predicates -/

theorem satisfiesEvery_eq_true_iff (d : Document) (branches : List Json) :
    satisfiesEvery d branches = .ok true ↔ ∀ branch ∈ branches, satisfiesBranch d branch = .ok true := by
  induction branches with
  | nil => simp [satisfiesEvery]
  | cons branch rest ih =>
    rw [satisfiesEvery, List.forall_mem_cons, ← ih]
    cases satisfiesBranch d branch with
    | error e => simp
    | ok b => cases b <;> simp

theorem satisfiesSome_eq_false_iff (d : Document) (branches : List Json) :
    satisfiesSome d branches = .ok false ↔ ∀ branch ∈ branches, satisfiesBranch d branch = .ok false := by
  induction branches with
  | nil => simp [satisfiesSome]
  | cons branch rest ih =>
    rw [satisfiesSome_cons, List.forall_mem_cons, ← ih]
    cases satisfiesBranch d branch with
    | error e => simp
    | ok b => cases b <;> simp

/-- a judgement of branches stalls on one of them -/
theorem exists_of_branchesStall {d : Document} {goesOn : Bool} {branches : List Json}
    (h : BranchesStall d goesOn branches) : ∃ branch ∈ branches, BranchStalls d branch := by
  induction branches with
  | nil => exact h.elim
  | cons branch rest ih =>
    rcases h with h | ⟨-, h⟩
    · exact ⟨branch, List.mem_cons_self, h⟩
    · obtain ⟨b, hb, hstalls⟩ := ih h
      exact ⟨b, List.mem_cons_of_mem _ hb, hstalls⟩

/-- joined predicates have a verdict if each of them has one -/
theorem judged_combine {d : Document} (c : Combinator) {documents : List Document}
    (h : ∀ p ∈ documents, Judged (satisfies d p)) : Judged (satisfies d (c.combine documents)) := by
  refine (judged_satisfies d _).2 fun hstalls => ?_
  obtain ⟨branch, hbranch, hstalls⟩ := exists_of_branchesStall ((predicateStalls_combine d c documents).1 hstalls)
  obtain ⟨p, hp, rfl⟩ := List.mem_map.1 hbranch
  exact (judged_satisfies d p).1 (h p hp) hstalls

theorem satisfies_combine (d : Document) (c : Combinator) {documents : List Document} (h : documents ≠ []) :
    satisfies d (c.combine documents) = satisfiesJoined d c (.arr (documents.map .obj)) := by
  have hkey : Combinator.ofKey? c.tag = some c := by cases c <;> rfl
  have hbranches : branchFault? (.arr (documents.map .obj)) = none := by
    simp [branchFault?, Json.isObj]
  rw [Combinator.combine, List.isEmpty_eq_false_iff.2 h, if_neg Bool.false_ne_true, satisfies_single, fieldVerdict,
    hkey]
  dsimp only
  rw [hbranches]

/-- the verdict on joined predicates when each of them leaves it open -/
def Combinator.exhausted : Combinator → Bool
  | and => true
  | or => false
  | nor => true

/-- joined predicates get the verdict of exhaustion if each of them leaves it open, and only then -/
theorem satisfies_combine_exhausted (d : Document) (c : Combinator) {documents : List Document} (h : documents ≠ []) :
    satisfies d (c.combine documents) = .ok c.exhausted ↔ ∀ p ∈ documents, satisfies d p = .ok c.goesOn := by
  rw [satisfies_combine d c h]
  cases c with
  | and =>
    simp [satisfiesJoined, Combinator.exhausted, Combinator.goesOn, satisfiesEvery_eq_true_iff, satisfiesBranch]
  | or =>
    simp [satisfiesJoined, Combinator.exhausted, Combinator.goesOn, satisfiesSome_eq_false_iff, satisfiesBranch]
  | nor =>
    simp [satisfiesJoined, Combinator.exhausted, Combinator.goesOn, Outcome.map_eq_ok, satisfiesSome_eq_false_iff,
      satisfiesBranch]

/-- what a combinator asks of its elements; without elements it asks for nothing -/
def Combinator.Asks {α : Type} (c : Combinator) (Holds : α → Prop) (elements : List α) : Prop :=
  match c with
  | and => ∀ e ∈ elements, Holds e
  | or => elements ≠ [] → ∃ e ∈ elements, Holds e
  | nor => ∀ e ∈ elements, ¬Holds e

/-- of some elements a combinator asks either that all of them leave its verdict open, or that not all of them do -/
theorem Combinator.asks_iff {α : Type} (c : Combinator) (verdict : α → Bool → Prop) {elements : List α}
    (hne : elements ≠ []) (h : ∀ e ∈ elements, ¬verdict e true ↔ verdict e false) :
    c.Asks (verdict · true) elements ↔ ((∀ e ∈ elements, verdict e c.goesOn) ↔ c.exhausted = true) := by
  have hall : (∀ e ∈ elements, ¬verdict e true) ↔ ∀ e ∈ elements, verdict e false := forall₂_congr h
  cases c with
  | and => simp [Asks, goesOn, exhausted]
  | or =>
    simp only [Asks, goesOn, exhausted, ← hall]
    simp [hne]
  | nor => simp [Asks, goesOn, exhausted, hall]

/-! ## Elements -/

/-- the anchor of a fragment that is one -/
def Fragment.anchor? : Fragment → Option ProximityAnchor
  | condition _ => none
  | anchor a => some a

theorem sortFragments_snd (fragments : List Fragment) :
    (sortFragments fragments).2 = (fragments.filterMap Fragment.anchor?).getLast? := by
  induction fragments with
  | nil => rfl
  | cons fragment rest ih =>
    cases fragment with
    | condition c => exact ih
    | anchor a =>
      show (sortFragments rest).2.or (some a) = (a :: rest.filterMap Fragment.anchor?).getLast?
      rw [ih, List.getLast?_cons]
      cases (rest.filterMap Fragment.anchor?).getLast? <;> rfl

namespace SingleFilter

/-- the predicate of an accepted filter that is no search by distance -/
def document? (config : Config) (f : SingleFilter) : Option Document :=
  (f.compile config).toOption.bind Fragment.document?

/-- the anchor of an accepted search by distance -/
def anchor? (config : Config) (f : SingleFilter) : Option ProximityAnchor :=
  (f.compile config).toOption.bind Fragment.anchor?

theorem verdict?_eq (config : Config) (f : SingleFilter) (d : Document) :
    f.verdict? config d = (f.document? config).map (satisfies d) := by
  unfold verdict? document?
  cases f.compile config with
  | error e => rfl
  | ok fragment => cases fragment <;> rfl

theorem parts_of_condition {f : SingleFilter} {config : Config} {c : FieldCondition}
    (h : f.compile config = .ok (.condition c)) :
    f.document? config = some c.toDocument ∧ f.anchor? config = none := by
  rw [document?, anchor?, h]
  exact ⟨rfl, rfl⟩

theorem parts_of_anchor {f : SingleFilter} {config : Config} {a : ProximityAnchor}
    (h : f.compile config = .ok (.anchor a)) : f.document? config = none ∧ f.anchor? config = some a := by
  rw [document?, anchor?, h]
  exact ⟨rfl, rfl⟩

/-- only a search by distance has an anchor -/
theorem isProximity_of_anchor {f : SingleFilter} {config : Config} {a : ProximityAnchor}
    (h : f.compile config = .ok (.anchor a)) : f.operator.isProximity = true := by
  cases hprox : f.operator.isProximity with
  | true => rfl
  | false =>
    rw [compile, hprox] at h
    obtain ⟨c, -, h⟩ := Outcome.bind_eq_ok.1 h
    obtain ⟨field, -, h⟩ := Outcome.bind_eq_ok.1 h
    cases h

/-- an accepted filter that is no search by distance has a predicate -/
theorem exists_document? {f : SingleFilter} {config : Config} {fragment : Fragment}
    (h : f.compile config = .ok fragment) (hprox : f.operator.isProximity = false) :
    ∃ p, f.document? config = some p := by
  cases fragment with
  | condition c => exact ⟨_, (parts_of_condition h).1⟩
  | anchor a => simp [isProximity_of_anchor h] at hprox

/-- a filter with a predicate is accepted, and no search by distance -/
theorem condition_of_document? {f : SingleFilter} {config : Config} {p : Document} (h : f.document? config = some p) :
    f.operator.isProximity = false ∧ (∃ fragment, f.compile config = .ok fragment) ∧ f.anchor? config = none := by
  obtain ⟨fragment, hfragment, -⟩ := Option.bind_eq_some_iff.1 h
  have hfragment := Outcome.toOption_eq_some.1 hfragment
  cases fragment with
  | condition c => exact ⟨(compile_eq_condition hfragment).1, ⟨_, hfragment⟩, (parts_of_condition hfragment).2⟩
  | anchor a => simp [(parts_of_anchor hfragment).1] at h

/-- parts of fragments, from the filters that they come from -/
theorem filterMap_of_compiled {config : Config} {filters : List SingleFilter} {fragments : List Fragment} {α : Type}
    {part : Fragment → Option α}
    (h : List.Forall₂ (fun f fragment => f.compile config = .ok fragment) filters fragments) :
    fragments.filterMap part = filters.filterMap fun f => (f.compile config).toOption.bind part := by
  induction h with
  | nil => rfl
  | cons hf _ ih => rw [List.filterMap_cons, List.filterMap_cons, ih, hf]; rfl

end SingleFilter

namespace CombinedFilter

/-- the predicates of the elements, in order -/
def documents (f : CombinedFilter) (config : Config) : List Document := f.elements.filterMap (·.document? config)

/-- what comes of an accepted combined filter: its predicates, joined, in an anchor if there is one -/
def joined (f : CombinedFilter) (config : Config) : CompiledFilter :=
  match (f.elements.filterMap (·.anchor? config)).getLast? with
  | some a => .anchored (a.fold f.combinator (f.documents config))
  | none => .predicate (f.combinator.combine (f.documents config))

theorem sortFragments_of_compiled {f : CombinedFilter} {config : Config} {fragments : List Fragment}
    (h : f.elements.mapM (SingleFilter.compile · config) = .ok fragments) :
    sortFragments fragments = (f.documents config, (f.elements.filterMap (·.anchor? config)).getLast?) := by
  have h := Outcome.mapM_eq_ok_iff.1 h
  refine Prod.ext ?_ ?_
  · rw [sortFragments_fst, SingleFilter.filterMap_of_compiled h]
    rfl
  · rw [sortFragments_snd, SingleFilter.filterMap_of_compiled h]
    rfl

/-- **Accepted combined filters.** At most one element searches by distance, and every element is accepted by itself. -/
theorem compile_eq_ok_iff {f : CombinedFilter} {config : Config} {filter : CompiledFilter} :
    f.compile config = .ok filter ↔
      f.elements.countP (·.operator.isProximity) ≤ 1 ∧
        (∀ e ∈ f.elements, ∃ fragment, e.compile config = .ok fragment) ∧ filter = f.joined config := by
  unfold compile joined
  dsimp only
  split
  · next hcount => simp [Nat.not_le.2 hcount]
  · next hcount =>
    rw [and_iff_right (Nat.not_lt.1 hcount), Outcome.bind_eq_ok, ← Outcome.exists_mapM_eq_ok]
    constructor
    · rintro ⟨fragments, hfragments, h⟩
      rw [sortFragments_of_compiled hfragments] at h
      refine ⟨⟨fragments, hfragments⟩, ?_⟩
      cases ha : (f.elements.filterMap (·.anchor? config)).getLast? with
      | none =>
        rw [ha] at h
        exact (Except.ok.inj h).symm
      | some a =>
        rw [ha] at h
        exact (Except.ok.inj h).symm
    · rintro ⟨⟨fragments, hfragments⟩, rfl⟩
      refine ⟨fragments, hfragments, ?_⟩
      rw [sortFragments_of_compiled hfragments]
      cases (f.elements.filterMap (·.anchor? config)).getLast? <;> rfl

theorem compile_of_several {f : CombinedFilter} (config : Config)
    (h : 1 < f.elements.countP (·.operator.isProximity)) :
    f.compile config = .error (.severalAnchors (f.elements.countP (·.operator.isProximity))) := by
  unfold compile
  exact if_pos h

/-- without several searches, a combined filter fails as the first element does that is not accepted -/
theorem compile_eq_error_iff {f : CombinedFilter} {config : Config} {e : FilterError}
    (h : f.elements.countP (·.operator.isProximity) ≤ 1) :
    f.compile config = .error e ↔ f.elements.mapM (SingleFilter.compile · config) = .error e := by
  unfold compile
  dsimp only
  rw [if_neg (Nat.not_lt.2 h), Outcome.bind_eq_error]
  refine or_iff_left ?_
  rintro ⟨fragments, -, hsorted⟩
  split at hsorted <;> cases hsorted

/-! ## Elements with predicates only -/

/-- every element is accepted, and none of them searches by distance -/
def Flat (f : CombinedFilter) (config : Config) : Prop := ∀ e ∈ f.elements, ∃ p, e.document? config = some p

variable {f g : CombinedFilter} {config : Config}

theorem flat_of_accepted (hprox : ∀ e ∈ f.elements, e.operator.isProximity = false)
    (haccepted : ∀ e ∈ f.elements, ∃ fragment, e.compile config = .ok fragment) : f.Flat config := by
  intro e he
  obtain ⟨fragment, hfragment⟩ := haccepted e he
  exact SingleFilter.exists_document? hfragment (hprox e he)

theorem Flat.countP (h : f.Flat config) : f.elements.countP (·.operator.isProximity) = 0 := by
  refine List.countP_eq_zero.2 fun e he => ?_
  obtain ⟨p, hp⟩ := h e he
  simp [(SingleFilter.condition_of_document? hp).1]

theorem Flat.accepted (h : f.Flat config) : ∀ e ∈ f.elements, ∃ fragment, e.compile config = .ok fragment := by
  intro e he
  obtain ⟨p, hp⟩ := h e he
  exact (SingleFilter.condition_of_document? hp).2.1

theorem Flat.anchors (h : f.Flat config) : f.elements.filterMap (·.anchor? config) = [] := by
  refine List.filterMap_eq_nil_iff.2 fun e he => ?_
  obtain ⟨p, hp⟩ := h e he
  exact (SingleFilter.condition_of_document? hp).2.2

theorem Flat.compile (h : f.Flat config) :
    f.compile config = .ok (.predicate (f.combinator.combine (f.documents config))) := by
  refine compile_eq_ok_iff.2 ⟨by rw [h.countP]; omega, h.accepted, ?_⟩
  rw [joined, h.anchors]
  rfl

/-- what holds of the verdicts on all predicates holds of the verdicts on all elements -/
theorem Flat.forall_documents_iff (h : f.Flat config) (d : Document) (P : Verdict → Prop) :
    (∀ p ∈ f.documents config, P (satisfies d p)) ↔ ∀ e ∈ f.elements, ∃ v, e.verdict? config d = some v ∧ P v := by
  simp only [documents, List.mem_filterMap, SingleFilter.verdict?_eq]
  constructor
  · intro hall e he
    obtain ⟨p, hp⟩ := h e he
    exact ⟨satisfies d p, by rw [hp]; rfl, hall p ⟨e, he, hp⟩⟩
  · rintro hall p ⟨e, he, hp⟩
    obtain ⟨v, hv, hPv⟩ := hall e he
    rw [hp] at hv
    cases hv
    exact hPv

/-- the joined predicate is judged to its end if every element leaves the verdict open -/
theorem Flat.exhausted_iff (h : f.Flat config) (hne : f.elements ≠ []) (d : Document) :
    satisfies d (f.combinator.combine (f.documents config)) = .ok f.combinator.exhausted ↔
      ∀ e ∈ f.elements, e.verdict? config d = some (.ok f.combinator.goesOn) := by
  have hdocuments : f.documents config ≠ [] := by
    obtain ⟨e, he⟩ := List.exists_mem_of_ne_nil _ hne
    obtain ⟨p, hp⟩ := h e he
    exact List.ne_nil_of_mem (List.mem_filterMap.2 ⟨e, he, hp⟩)
  rw [satisfies_combine_exhausted d f.combinator hdocuments,
    h.forall_documents_iff d (· = .ok f.combinator.goesOn)]
  exact forall₂_congr fun e he => ⟨by rintro ⟨v, hv, rfl⟩; exact hv, fun h => ⟨_, h, rfl⟩⟩

/-! ## The meaning of a combined filter -/

/-- all elements have a verdict on a document -/
def Judges (f : CombinedFilter) (config : Config) (d : Document) : Prop :=
  ∀ e ∈ f.elements, ∃ b, e.verdict? config d = some (.ok b)

theorem Flat.judged (h : f.Flat config) {d : Document} (hjudges : f.Judges config d) :
    Judged (satisfies d (f.combinator.combine (f.documents config))) := by
  refine judged_combine f.combinator ((h.forall_documents_iff d Judged).2 fun e he => ?_)
  obtain ⟨b, hb⟩ := hjudges e he
  exact ⟨.ok b, hb, judged_ok b⟩

theorem Flat.verdict (h : f.Flat config) {d : Document} (hjudges : f.Judges config d) :
    ∃ b, satisfies d (f.combinator.combine (f.documents config)) = .ok b ∧
      (b = true ↔ f.combinator.Asks (fun e => e.verdict? config d = some (.ok true)) f.elements) := by
  obtain ⟨b, hb⟩ := h.judged hjudges
  refine ⟨b, hb, ?_⟩
  by_cases hne : f.elements = []
  · have hnone : satisfies d (f.combinator.combine (f.documents config)) = .ok true := by
      simp [documents, hne, Combinator.combine, satisfies]
    have htrue : b = true := Except.ok.inj (hb.symm.trans hnone)
    cases f.combinator <;> simp [Combinator.Asks, hne, htrue]
  · have hother : ∀ e ∈ f.elements, ¬e.verdict? config d = some (.ok true) ↔
        e.verdict? config d = some (.ok false) := by
      intro e he
      obtain ⟨c, hc⟩ := hjudges e he
      cases c <;> simp [hc]
    have hend := h.exhausted_iff hne d
    rw [hb, Except.ok.injEq] at hend
    rw [f.combinator.asks_iff (fun e b => e.verdict? config d = some (.ok b)) hne hother, ← hend]
    cases b <;> cases f.combinator.exhausted <;> decide

/-- two verdicts of filters with the same elements are the same -/
theorem Flat.verdict_unique (hf : f.Flat config) (hg : g.Flat config) (hcombinator : g.combinator = f.combinator)
    (hsame : ∀ e, e ∈ g.elements ↔ e ∈ f.elements) {d : Document} {b c : Bool}
    (hb : satisfies d (f.combinator.combine (f.documents config)) = .ok b)
    (hc : satisfies d (g.combinator.combine (g.documents config)) = .ok c) : c = b := by
  by_cases hne : f.elements = []
  · have hempty : g.elements = [] := List.eq_nil_iff_forall_not_mem.2 fun e he => by simpa [hne] using (hsame e).1 he
    simp only [documents, hne, hempty, hcombinator] at hb hc
    rw [hb] at hc
    exact (Except.ok.inj hc).symm
  · have hne' : g.elements ≠ [] := by
      obtain ⟨e, he⟩ := List.exists_mem_of_ne_nil _ hne
      exact List.ne_nil_of_mem ((hsame e).2 he)
    have hfend := hf.exhausted_iff hne d
    have hgend := hg.exhausted_iff hne' d
    rw [hb, Except.ok.injEq] at hfend
    rw [hc, hcombinator, Except.ok.injEq] at hgend
    -- both are judged to their end under the same condition, which asks something of every element
    have hiff : c = f.combinator.exhausted ↔ b = f.combinator.exhausted := by
      rw [hfend, hgend]
      exact forall_congr' fun e => imp_congr_left (hsame e)
    revert hiff
    cases b <;> cases c <;> cases f.combinator.exhausted <;> decide

/-- **Combined filters mean their combinator.** An accepted filter without a search by distance is a predicate. On a
document that every element can judge it has a verdict, which is what the combinator says of the elements. Another
filter with the same elements, in whatever order and however often, is accepted too; it never has another verdict, and
of documents that every element can judge it selects the same. -/
theorem means_combinator {filter : CompiledFilter} (hprox : ∀ e ∈ f.elements, e.operator.isProximity = false)
    (h : f.compile config = .ok filter) :
    ∃ p, filter = .predicate p ∧
      (∀ d, f.Judges config d → ∃ b, satisfies d p = .ok b ∧
        (b = true ↔ f.combinator.Asks (fun e => e.verdict? config d = some (.ok true)) f.elements)) ∧
      ∀ g : CombinedFilter, g.combinator = f.combinator → (∀ e, e ∈ g.elements ↔ e ∈ f.elements) →
        ∃ q, g.compile config = .ok (.predicate q) ∧
          (∀ d b c, satisfies d p = .ok b → satisfies d q = .ok c → c = b) ∧
          ∀ documents, (∀ d ∈ documents, f.Judges config d) → selectRows q documents = selectRows p documents := by
  have hf := flat_of_accepted hprox (compile_eq_ok_iff.1 h).2.1
  refine ⟨_, Except.ok.inj (h.symm.trans hf.compile), fun d => hf.verdict, fun g hcombinator hsame => ?_⟩
  have hg : g.Flat config := fun e he => hf e ((hsame e).1 he)
  refine ⟨_, hg.compile, fun d b c => hf.verdict_unique hg hcombinator hsame, fun documents hjudges => ?_⟩
  refine selectRows_congr fun d hd => ?_
  obtain ⟨b, hb, -⟩ := hf.verdict (hjudges d hd)
  have hjudges' : g.Judges config d := fun e he => hjudges d hd e ((hsame e).1 he)
  obtain ⟨c, hc, -⟩ := hg.verdict hjudges'
  rw [hb, hc, hf.verdict_unique hg hcombinator hsame hb hc]

/-- one name or the other -/
def eitherName : CombinedFilter := ⟨.or, [⟨.path "name", .equals, .str "a"⟩, ⟨.path "name", .equals, .str "b"⟩]⟩

/-- the other name first, and once more at the end -/
def otherNameFirst : CombinedFilter := ⟨.or, eitherName.elements.reverse ++ [⟨.path "name", .equals, .str "b"⟩]⟩

theorem means_combinator_eitherName :
    let d : Document := [("_id", .str "1"), ("name", .str "b")]
    let p : Document := [("$or", .arr [.obj [("name", .str "a")], .obj [("name", .str "b")]])]
    let q : Document :=
      [("$or", .arr [.obj [("name", .str "b")], .obj [("name", .str "a")], .obj [("name", .str "b")]])]
    (∀ e ∈ eitherName.elements, e.operator.isProximity = false) ∧ eitherName.Judges {} d ∧
      eitherName.compile {} = .ok (.predicate p) ∧ satisfies d p = .ok true ∧
      otherNameFirst.compile {} = .ok (.predicate q) ∧ selectRows q [d] = selectRows p [d] := by
  intro d p q
  have hprox : ∀ e ∈ eitherName.elements, e.operator.isProximity = false := by decide
  have hfirst : SingleFilter.verdict? ⟨.path "name", .equals, .str "a"⟩ {} d = some (.ok false) := by
    rfl
  have hsecond : SingleFilter.verdict? ⟨.path "name", .equals, .str "b"⟩ {} d = some (.ok true) := by
    rfl
  have hjudges : eitherName.Judges {} d := by
    simp [Judges, eitherName, hfirst, hsecond]
  have hcompile : eitherName.compile {} = .ok (.predicate p) := rfl
  obtain ⟨p', hp, hverdict, hothers⟩ := means_combinator hprox hcompile
  cases hp
  obtain ⟨b, hb, hmeaning⟩ := hverdict d hjudges
  obtain ⟨q', hq, -, hselect⟩ := hothers otherNameFirst rfl (by simp [otherNameFirst, eitherName, or_comm])
  have hcompile' : otherNameFirst.compile {} = .ok (.predicate q) := rfl
  cases hcompile'.symm.trans hq
  have htrue : b = true := hmeaning.2 fun _ => ⟨_, by simp [eitherName], hsecond⟩
  subst htrue
  exact ⟨hprox, hjudges, hcompile, hb, hq, hselect [d] (by simpa using hjudges)⟩

end CombinedFilter

end DocumentQuery
