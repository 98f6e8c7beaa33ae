/-
JOINED PATHS. Reading walks down a value, one segment after another, so the walk along two paths in a row is the walk
along the first one and then, from each value that it comes to, along the second:

- `Waypoint`, `Waypoint.onward`: the walk as it goes, where an array hands a segment that is no number on to the
  objects among its items;
- `Json.descend_cons`: what is found at segments is found on that walk;
- `Waypoint.rank_lt`, `Waypoint.length_le`, `Waypoint.wellFounded`: it ends, after two steps for each segment at most;
- `Json.descend_append`, `Path.segments_join`, `Document.resolve_join`: two walks in a row, along segments and along
  paths;
- `Json.descend_compositional`: all of it.
-/
import Mathlib.Data.List.Chain
import DocumentQuery.Proofs.SeparatePaths

namespace DocumentQuery

/-! ## The walk -/

/-- a value that the walk has come to, and the segments that are left -/
structure Waypoint where
  value : Json
  segments : List String

namespace Waypoint

/-- where the walk goes on, in order: one segment further down at a field or at an item with a number, and with all
segments at the objects among the items of an array -/
def onward : Waypoint → List Waypoint
  | ⟨_, []⟩ => []
  | ⟨.obj fields, segment :: rest⟩ => (Document.find? fields segment).toList.map (⟨·, rest⟩)
  | ⟨.arr items, segment :: rest⟩ =>
    match Path.index? segment with
    | some i => items[i]?.toList.map (⟨·, rest⟩)
    | none => (items.filter Json.isObj).map (⟨·, segment :: rest⟩)
  | ⟨_, _ :: _⟩ => []

/-- the steps that a walk may still take: two for each segment, and one less outside of arrays -/
def rank (p : Waypoint) : Nat := if p.value.isArr then 2 * p.segments.length else 2 * p.segments.length - 1

theorem rank_le (p : Waypoint) : p.rank ≤ 2 * p.segments.length := by
  unfold rank
  split <;> omega

theorem lt_rank (v : Json) (segment : String) (rest : List String) : 2 * rest.length < rank ⟨v, segment :: rest⟩ := by
  unfold rank
  dsimp only
  rw [List.length_cons]
  split <;> omega

/-- **One step.** Every step leaves fewer steps to go. -/
theorem rank_lt {p c : Waypoint} (h : c ∈ p.onward) : c.rank < p.rank := by
  obtain ⟨v, segments⟩ := p
  cases segments with
  | nil => cases v <;> cases h
  | cons segment rest =>
    have hused : ∀ w : Json, rank ⟨w, rest⟩ < rank ⟨v, segment :: rest⟩ := fun w =>
      Nat.lt_of_le_of_lt (rank_le ⟨w, rest⟩) (lt_rank v segment rest)
    cases v with
    | obj fields =>
      obtain ⟨w, -, rfl⟩ := List.mem_map.1 h
      exact hused w
    | arr items =>
      rw [onward] at h
      split at h
      · obtain ⟨w, -, rfl⟩ := List.mem_map.1 h
        exact hused w
      · -- from an array to an object, with the same segments
        obtain ⟨w, hw, rfl⟩ := List.mem_map.1 h
        have hobj : w.isObj = true := (List.mem_filter.1 hw).2
        cases w with
        | obj fields =>
          have hpos : 0 < 2 * (segment :: rest).length := Nat.zero_lt_of_lt (lt_rank (.arr []) segment rest)
          exact Nat.sub_one_lt_of_lt hpos
        | _ => cases hobj
    | _ => cases h

/-- **The end of the walk.** It takes two steps for each segment at most, whatever the value. -/
theorem length_le {p : Waypoint} {walk : List Waypoint} (h : (p :: walk).IsChain fun p c => c ∈ p.onward) :
    walk.length ≤ 2 * p.segments.length := by
  have hrank : walk.length ≤ p.rank := by
    induction walk generalizing p with
    | nil => exact Nat.zero_le _
    | cons c walk ih =>
      obtain ⟨hstep, hwalk⟩ := List.isChain_cons_cons.1 h
      have hlt := rank_lt hstep
      have hle := ih hwalk
      rw [List.length_cons]
      omega
  exact Nat.le_trans hrank p.rank_le

/-- no walk goes on for ever -/
theorem wellFounded : WellFounded fun c p : Waypoint => c ∈ p.onward :=
  Subrelation.wf rank_lt (measure rank).wf

end Waypoint

namespace Json

/-- among the items of an array, only the objects have fields -/
theorem flatMap_field? (items : List Json) (segment : String) (rest : List String) :
    (items.filterMap (·.field? segment)).flatMap (·.descend rest) =
      (items.filter isObj).flatMap (·.descend (segment :: rest)) := by
  induction items with
  | nil => rfl
  | cons v items ih =>
    cases v with
    | obj fields =>
      have hfield : (obj fields).field? segment = Document.find? fields segment := rfl
      rw [List.filterMap_cons, List.filter_cons_of_pos rfl, List.flatMap_cons, descend_obj, ← ih, hfield]
      cases Document.find? fields segment with
      | none => rfl
      | some w => simp
    | _ =>
      rw [List.filterMap_cons, List.filter_cons_of_neg Bool.false_ne_true, ← ih]
      rfl

/-- **The walk goes on.** What is found at segments is what is found from the next places of the walk on, in order. -/
theorem descend_cons (v : Json) (segment : String) (rest : List String) :
    v.descend (segment :: rest) =
      (Waypoint.onward ⟨v, segment :: rest⟩).flatMap fun c => c.value.descend c.segments := by
  cases v with
  | obj fields => rw [descend_obj, Waypoint.onward, List.flatMap_map]
  | arr items =>
    rw [descend, oneBelow, Waypoint.onward]
    cases Path.index? segment with
    | some i =>
      dsimp only
      rw [List.flatMap_map]
    | none =>
      dsimp only
      rw [flatMap_field?, List.flatMap_map]
  | _ => rfl

/-- **Two walks in a row.** -/
theorem descend_append (v : Json) (s t : List String) :
    v.descend (s ++ t) = (v.descend s).flatMap (·.descend t) := by
  induction s generalizing v with
  | nil => exact (List.flatMap_singleton (·.descend t) v).symm
  | cons segment rest ih =>
    calc v.descend (segment :: rest ++ t)
        = (v.oneBelow segment).flatMap fun w => w.descend (rest ++ t) := rfl
      _ = (v.oneBelow segment).flatMap fun w => (w.descend rest).flatMap (·.descend t) := by simp only [ih]
      _ = ((v.oneBelow segment).flatMap fun w => w.descend rest).flatMap (·.descend t) := List.flatMap_assoc.symm

end Json

/-! ## Two paths joined -/

namespace Path

/-- a path, and one below it -/
def join (p q : String) : String := p ++ "." ++ q

theorem splitChars_append (sep : Char) (as bs : List Char) :
    splitChars sep (as ++ sep :: bs) = splitChars sep as ++ splitChars sep bs := by
  induction as with
  | nil => simp [splitChars]
  | cons a as ih =>
    rw [List.cons_append, splitChars, splitChars, ih]
    split
    · rfl
    · obtain ⟨part, parts, hparts⟩ := List.exists_cons_of_ne_nil (splitChars_ne_nil sep as)
      rw [hparts]
      rfl

theorem segments_join (p q : String) : segments (join p q) = segments p ++ segments q := by
  have hchars : (join p q).toList = p.toList ++ '.' :: q.toList := by
    simp [join]
  rw [segments, hchars, splitChars_append, List.map_append]
  rfl

theorem Full.join {p q : String} (hp : Full p) (hq : Full q) : Full (Path.join p q) := by
  intro segment h
  rw [segments_join] at h
  exact (List.mem_append.1 h).elim (hp segment) (hq segment)

end Path

/-- **Reading in two steps.** The values at two joined paths are the values at the second below each value at the
first. -/
theorem Document.resolve_join {p q : String} (hp : Path.Full p) (hq : Path.Full q) (d : Document) :
    d.resolve (Path.join p q) = (d.resolve p).flatMap (·.descend (Path.segments q)) := by
  rw [resolve_of_full (hp.join hq), resolve_of_full hp, Path.segments_join, Json.descend_append]

/-- **Reading is compositional.** The values at segments followed by others are the values at the others below each
value at the first ones, in order, and so are the values at two joined paths without empty segments. They are what the
walk comes to, which ends at every value and all segments. -/
theorem Json.descend_compositional :
    (∀ (v : Json) (s t : List String), v.descend (s ++ t) = (v.descend s).flatMap (·.descend t)) ∧
    (∀ (d : Document) (p q : String), Path.Full p → Path.Full q →
      d.resolve (p ++ "." ++ q) = (d.resolve p).flatMap (·.descend (Path.segments q))) ∧
    (∀ v : Json, v.descend [] = [v]) ∧
    (∀ (v : Json) (segment : String) (rest : List String), v.descend (segment :: rest) =
      (Waypoint.onward ⟨v, segment :: rest⟩).flatMap fun c => c.value.descend c.segments) ∧
    (∀ (p : Waypoint) (walk : List Waypoint), ((p :: walk).IsChain fun p c => c ∈ p.onward) →
      walk.length ≤ 2 * p.segments.length) ∧
    WellFounded fun c p : Waypoint => c ∈ p.onward :=
  ⟨descend_append, fun d _ _ hp hq => Document.resolve_join hp hq d, fun _ => rfl, descend_cons,
    fun _ _ => Waypoint.length_le, Waypoint.wellFounded⟩

/-- the arrays at `a` and below it are walked through object by object, so two segments take four steps there -/
theorem Json.descend_compositional_arrays :
    let inner : Json := .arr [.obj [("c", .nat 1)], .null, .obj [("c", .nat 2)]]
    let outer : Json := .arr [.obj [("b", inner)], .obj [("b", .obj [("c", .nat 3)])]]
    let d : Document := [("a", outer)]
    let walk : List Waypoint :=
      [⟨.obj [("b", inner)], ["b", "c"]⟩, ⟨inner, ["c"]⟩, ⟨.obj [("c", .nat 1)], ["c"]⟩, ⟨.nat 1, []⟩]
    Path.Full "a.b" ∧ Path.Full "c" ∧ d.resolve "a.b" = [inner, .obj [("c", .nat 3)]] ∧
    d.resolve "a.b.c" = (d.resolve "a.b").flatMap (·.descend ["c"]) ∧
    d.resolve "a.b.c" = [.nat 1, .nat 2, .nat 3] ∧
    (⟨outer, ["b", "c"]⟩ :: walk).IsChain (fun p c => c ∈ p.onward) ∧ walk.length ≤ 2 * 2 := by
  intro inner outer d walk
  have hfirst : Path.Full "a.b" := by decide
  have hsecond : Path.Full "c" := by decide
  obtain ⟨-, hpaths, -, -, hlength, -⟩ := descend_compositional
  have hwalk : (⟨outer, ["b", "c"]⟩ :: walk).IsChain fun p c => c ∈ p.onward :=
    .cons_cons (.head _) (.cons_cons (.head _) (.cons_cons (.head _) (.cons_cons (.head _) (.singleton _))))
  exact ⟨hfirst, hsecond, rfl, hpaths d "a.b" "c" hfirst hsecond, rfl, hwalk, hlength _ _ hwalk⟩

end DocumentQuery
