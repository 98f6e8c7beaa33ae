/-
ANCHORS FROM THE COMPILER. Every proximity anchor that comes out of a filter has finite numbers, so that they can be
written as JSON and read back, and it takes the location field, the distance field and the metric from the settings.
Folding other conditions into an anchor changes its query and nothing else.
-/
import DocumentQuery.Filter.Compile
import DocumentQuery.Proofs.Outcome

namespace DocumentQuery

/-! ## Finite floats -/

/-- a finite float has a number -/
theorem Json.float_of_isFinite {x : Float} (h : isFinite x = true) : Json.float x = .num (.float x) := by
  simp [Json.float, h]

/-- what lies between finite floats is finite -/
theorem isFinite_of_between {low x high : Float} (hlow : isFinite low = true) (hhigh : isFinite high = true)
    (h : SingleFilter.between low x high = true) : isFinite x = true := by
  simp only [SingleFilter.between, Bool.and_eq_true, decide_eq_true_eq] at h
  simp only [isFinite, decide_eq_true_eq] at *
  simp only [floatPlace] at h
  split at h <;> split at h <;> split at h <;> omega

theorem isFinite_of_distance? {v : Json} {x : Float} (h : SingleFilter.distance? v = some x) : isFinite x = true := by
  obtain ⟨-, h⟩ := Option.filter_eq_some_iff.1 h
  exact (Bool.and_eq_true _ _ ▸ h).1

/-- distances of a proximity filter are finite -/
theorem isFinite_of_distances? {v : Json} {least : Option Float} {most : Float}
    (h : SingleFilter.distances? v = some (least, most)) :
    isFinite most = true ∧ ∀ x, least = some x → isFinite x = true := by
  unfold SingleFilter.distances? at h
  split at h
  · obtain ⟨m, hm, h⟩ := Option.bind_eq_some_iff.1 h
    obtain ⟨w, -, hm⟩ := Option.bind_eq_some_iff.1 hm
    have hfin := isFinite_of_distance? hm
    split at h
    · cases h
      exact ⟨hfin, by simp⟩
    · cases h
      exact ⟨hfin, by simp⟩
    · obtain ⟨l, hl, h⟩ := Option.bind_eq_some_iff.1 h
      split at h
      · cases h
        exact ⟨hfin, fun x hx => by cases hx; exact isFinite_of_distance? hl⟩
      · simp at h
  · obtain ⟨m, hm, h⟩ := Option.map_eq_some_iff.1 h
    cases h
    exact ⟨isFinite_of_distance? hm, by simp⟩

/-! ## Anchors -/

namespace ProximityAnchor

/-- an anchor made under some settings, whatever its query -/
structure Compiled (config : Config) (a : ProximityAnchor) : Prop where
  lng : isFinite a.lng = true
  lat : isFinite a.lat = true
  most : isFinite a.maxDistance = true
  least : ∀ x, a.minDistance = some x → isFinite x = true
  distanceField : a.distanceField = config.distanceField
  spherical : a.spherical = config.spherical
  key : a.key = config.geoKey

theorem Compiled.constrain {config : Config} {a : ProximityAnchor} (h : a.Compiled config) (p : Document) :
    (a.constrain p).Compiled config :=
  ⟨h.lng, h.lat, h.most, h.least, h.distanceField, h.spherical, h.key⟩

theorem Compiled.fold {config : Config} {a : ProximityAnchor} (h : a.Compiled config) (c : Combinator)
    (fragments : List Document) : (a.fold c fragments).Compiled config :=
  h.constrain _

end ProximityAnchor

theorem SingleFilter.compiled_of_compileNear {f : SingleFilter} {config : Config} {a : ProximityAnchor}
    (h : f.compileNear config = .ok a) : a.Compiled config := by
  unfold compileNear at h
  split at h
  · simp at h
  · next lng lat hp =>
    split at h
    · simp at h
    · next least most hd =>
      cases h
      obtain ⟨hmost, hleast⟩ := isFinite_of_distances? hd
      unfold point? at hp
      split at hp
      · split at hp
        · next hb =>
          cases hp
          obtain ⟨hlng, hlat⟩ := Bool.and_eq_true _ _ ▸ hb
          exact ⟨isFinite_of_between (by decide) (by decide) hlng, isFinite_of_between (by decide) (by decide) hlat,
            hmost, hleast, rfl, rfl, rfl⟩
        · simp at hp
      · simp at hp

theorem SingleFilter.compiled_of_compile {f : SingleFilter} {config : Config} {a : ProximityAnchor}
    (h : f.compile config = .ok (.anchor a)) : a.Compiled config := by
  unfold compile at h
  split at h
  · obtain ⟨b, hb, h⟩ := Outcome.bind_eq_ok.1 h
    cases h
    exact compiled_of_compileNear hb
  · obtain ⟨c, -, h⟩ := Outcome.bind_eq_ok.1 h
    obtain ⟨field, -, h⟩ := Outcome.bind_eq_ok.1 h
    cases h

/-- the anchor among fragments is one of them -/
theorem mem_of_sortFragments {fragments : List Fragment} {a : ProximityAnchor}
    (h : (sortFragments fragments).2 = some a) : Fragment.anchor a ∈ fragments := by
  induction fragments with
  | nil => simp [sortFragments] at h
  | cons fragment rest ih =>
    cases fragment with
    | condition c => exact List.mem_cons_of_mem _ (ih h)
    | anchor b =>
      have h : (sortFragments rest).2.or (some b) = some a := h
      cases hr : (sortFragments rest).2 with
      | none =>
        rw [hr] at h
        cases h
        exact List.mem_cons_self
      | some b' =>
        rw [hr] at h
        exact List.mem_cons_of_mem _ (ih (hr.trans h))

/-- **Anchors are well made.** Every anchor that the compiler gives has finite numbers and follows the settings. -/
theorem compiled_of_compileFilter {descriptor : Option FilterDescriptor} {config : Config} {a : ProximityAnchor}
    (h : compileFilter descriptor config = .ok (.anchored a)) : a.Compiled config := by
  cases descriptor with
  | none => cases h
  | some descriptor =>
    cases descriptor with
    | single f =>
      simp only [compileFilter] at h
      cases hf : f.compile config with
      | error e => simp [hf, Except.map] at h
      | ok fragment =>
        cases fragment with
        | condition c => simp [hf, Except.map, Fragment.toFilter] at h
        | anchor b =>
          simp only [hf, Except.map, Fragment.toFilter, Except.ok.injEq, CompiledFilter.anchored.injEq] at h
          exact h ▸ SingleFilter.compiled_of_compile hf
    | combined f =>
      simp only [compileFilter, CombinedFilter.compile] at h
      split at h
      · simp at h
      · obtain ⟨fragments, hfr, h⟩ := Outcome.bind_eq_ok.1 h
        split at h
        · next documents b hs =>
          cases h
          obtain ⟨e, -, he⟩ := Outcome.exists_of_mem_mapM hfr (mem_of_sortFragments (by rw [hs]))
          exact (SingleFilter.compiled_of_compile he).fold _ _
        · cases h

end DocumentQuery
