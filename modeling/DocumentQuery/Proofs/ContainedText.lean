/-
TEXT CONTAINED IN TEXT. A filter that searches for a value literally selects the documents in which some text at its
path contains the text of the value, letter case aside. The search goes the long way: the value is escaped, put between
two `.*`, read back as a pattern and laid over the texts of a document. The `.*` stay within a line, and need not match
anything.

- `StandsIn`: a text stands in another one, letter case aside;
- `matches_inRow_append`, `matches_caseless`: matches of patterns in a row, and of characters in any case;
- `occursIn_containing`: the pattern of a text occurs in the texts that contain it;
- `TextOf`, `TextAt`: texts of values, and texts at a path of a document;
- `compileFilter_contains_literal`: the filter as a whole.
-/
import DocumentQuery.Proofs.CaseVariants
import DocumentQuery.Proofs.CompiledFilters
import DocumentQuery.Proofs.Matches

namespace DocumentQuery

/-- characters of a text in their folded forms -/
def foldedChars (s : String) : List Char := s.toList.map Unicode.foldCase

/-- the second text contains the first one, if the folded forms of characters count -/
def StandsIn (t s : String) : Prop := foldedChars t <:+: foldedChars s

instance (t s : String) : Decidable (StandsIn t s) := inferInstanceAs (Decidable (_ <:+: _))

/-! ## Patterns of texts -/

namespace Pattern

section

variable {text : List Char}

/-- patterns in a row match one behind the other -/
theorem matches_inRow_append (ps qs : List Pattern) (i j : Nat) :
    (inRow (ps ++ qs)).Matches text i j ↔ ∃ m, (inRow ps).Matches text i m ∧ (inRow qs).Matches text m j := by
  induction ps generalizing i with
  | nil =>
    constructor
    · exact fun h => ⟨i, rfl, h⟩
    · rintro ⟨m, rfl, h⟩
      exact h
  | cons p ps ih =>
    constructor
    · rintro ⟨k, hik, hkj⟩
      obtain ⟨m, hkm, hmj⟩ := (ih k).1 hkj
      exact ⟨m, ⟨k, hik, hkm⟩, hmj⟩
    · rintro ⟨m, ⟨k, hik, hkm⟩, hmj⟩
      exact ⟨k, hik, (ih k).2 ⟨m, hkm, hmj⟩⟩

theorem contains_caseVariants (c d : Char) :
    (CharSet.ofChars (Unicode.caseVariants c)).contains d = true ↔ Unicode.foldCase d = Unicode.foldCase c := by
  rw [CharSet.contains_ofChars, Unicode.mem_caseVariants]

/-- characters in any case match what has the same folded forms -/
theorem matches_caseless (cs : List Char) (i j : Nat) :
    (inRow (cs.map caselessChar)).Matches text i j ↔
      ∃ part, part <+: text.drop i ∧ part.map Unicode.foldCase = cs.map Unicode.foldCase ∧ j = i + part.length := by
  induction cs generalizing i with
  | nil =>
    constructor
    · rintro rfl
      exact ⟨[], List.nil_prefix, rfl, rfl⟩
    · rintro ⟨part, -, hfolded, rfl⟩
      obtain rfl := List.map_eq_nil_iff.1 hfolded
      rfl
  | cons c cs ih =>
    constructor
    · rintro ⟨_, ⟨⟨d, hd, hcase⟩, rfl⟩, hrest⟩
      obtain ⟨part, hpart, hfolded, rfl⟩ := (ih (i + 1)).1 hrest
      obtain ⟨hi, rfl⟩ := List.getElem?_eq_some_iff.1 hd
      rw [contains_caseVariants] at hcase
      refine ⟨text[i] :: part, ?_, ?_, ?_⟩
      · rw [List.drop_eq_getElem_cons hi]
        exact (List.prefix_cons_inj _).2 hpart
      · rw [List.map_cons, hcase, hfolded, List.map_cons]
      · rw [List.length_cons]
        omega
    · rintro ⟨part, hpart, hfolded, rfl⟩
      obtain ⟨d, part, rfl, hcase, hrest⟩ := List.map_eq_cons_iff.1 hfolded
      have hd : text[i]? = some d := by
        obtain ⟨behind, hbehind⟩ := hpart
        rw [← List.head?_drop, ← hbehind]
        rfl
      obtain ⟨hi, rfl⟩ := List.getElem?_eq_some_iff.1 hd
      rw [List.drop_eq_getElem_cons hi] at hpart
      refine ⟨i + 1, ⟨⟨text[i], hd, (contains_caseVariants c _).2 hcase⟩, rfl⟩, (ih (i + 1)).2 ⟨part, ?_, hrest, ?_⟩⟩
      · exact (List.prefix_cons_inj _).1 hpart
      · rw [List.length_cons]
        omega

/-- anything in a line may be nothing -/
theorem matches_anyInLine (i : Nat) : anyInLine.Matches text i i :=
  ⟨0, Nat.le_refl 0, nofun, rfl⟩

/-- what stands around a text in its pattern neither asks for anything nor keeps the text from matching anywhere -/
theorem exists_matches_containing (cs : List Char) :
    (∃ i j, i ≤ text.length ∧ (containing cs).Matches text i j) ↔
      cs.map Unicode.foldCase <:+: text.map Unicode.foldCase := by
  have hmiddle (i j : Nat) : (containing cs).Matches text i j ↔
      ∃ k, anyInLine.Matches text i k ∧ ∃ l, (inRow (cs.map caselessChar)).Matches text k l ∧
        (inRow [anyInLine]).Matches text l j :=
    exists_congr fun k => and_congr_right fun _ => matches_inRow_append (cs.map caselessChar) [anyInLine] k j
  constructor
  · rintro ⟨i, j, -, h⟩
    obtain ⟨k, -, l, hcaseless, -⟩ := (hmiddle i j).1 h
    obtain ⟨part, hpart, hfolded, -⟩ := (matches_caseless cs k l).1 hcaseless
    rw [← hfolded]
    exact (hpart.isInfix.trans (List.drop_suffix k text).isInfix).map Unicode.foldCase
  · rintro hinfix
    obtain ⟨part, hpart, hfolded⟩ := List.infix_map_iff.1 hinfix
    obtain ⟨front, behind, rfl⟩ := hpart
    refine ⟨front.length, front.length + part.length, by simp, ?_⟩
    refine (hmiddle _ _).2 ⟨_, matches_anyInLine _, _, (matches_caseless cs _ _).2 ⟨part, ?_, hfolded.symm, rfl⟩, ?_⟩
    · simp
    · exact ⟨_, matches_anyInLine _, rfl⟩

end

/-- **Occurrence of a text.** The pattern that contains a text occurs in the texts that do, line breaks or not. -/
theorem occursIn_containing (t s : String) : (containing t.toList).occursIn s = true ↔ StandsIn t s := by
  rw [occursIn_iff, exists_matches_containing]
  rfl

end Pattern

/-! ## Texts of values and of documents -/

/-- the text of a text, and of a number or truth value as JSON -/
inductive TextOf : Json → String → Prop where
  | str (s : String) : TextOf (.str s) s
  | num (n : Number) : TextOf (.num n) (Json.num n).compact
  | bool (b : Bool) : TextOf (.bool b) (Json.bool b).compact

/-- values with a text are those that can be searched for -/
theorem searchText?_eq_some {v : Json} {t : String} : searchText? v = some t ↔ TextOf v t := by
  constructor
  · intro h
    cases v with
    | str s =>
      obtain rfl := Option.some.inj h
      exact .str s
    | num n =>
      obtain rfl := Option.some.inj h
      exact .num n
    | bool b =>
      obtain rfl := Option.some.inj h
      cases b
      · exact .bool false
      · exact .bool true
    | null => cases h
    | arr items => cases h
    | obj fields => cases h
  · rintro (s | n | b)
    · rfl
    · rfl
    · cases b <;> rfl

theorem mem_expand {values : List Json} {v : Json} :
    v ∈ expand values ↔ v ∈ values ∨ ∃ items, .arr items ∈ values ∧ v ∈ items := by
  rw [expand, List.mem_flatMap]
  constructor
  · rintro ⟨w, hw, hv⟩
    rcases List.mem_cons.1 hv with rfl | hv
    · exact Or.inl hw
    · cases w with
      | arr items => exact Or.inr ⟨items, hw, hv⟩
      | _ => cases hv
  · rintro (hv | ⟨items, hitems, hv⟩)
    · exact ⟨v, hv, List.mem_cons_self⟩
    · exact ⟨.arr items, hitems, List.mem_cons_of_mem _ hv⟩

/-- a text is among the values at a path of a document, or directly inside of an array among them -/
def TextAt (d : Document) (path s : String) : Prop :=
  .str s ∈ Document.resolve d path ∨ ∃ items, .arr items ∈ Document.resolve d path ∧ .str s ∈ items

/-! ## The filter -/

/-- a text that stands in some text at a path, found by its pattern -/
theorem any_occursIn_containing (d : Document) (path t : String) :
    ((expand (Document.resolve d path)).any fun v => v.str?.any (Pattern.containing t.toList).occursIn) = true ↔
      ∃ s, TextAt d path s ∧ StandsIn t s := by
  rw [List.any_eq_true]
  constructor
  · rintro ⟨v, hv, hoccurs⟩
    cases v with
    | str s => exact ⟨s, mem_expand.1 hv, (Pattern.occursIn_containing t s).1 hoccurs⟩
    | _ => cases hoccurs
  · rintro ⟨s, hs, hstands⟩
    exact ⟨.str s, mem_expand.2 hs, (Pattern.occursIn_containing t s).2 hstands⟩

theorem compileFilter_of_contains {f : SingleFilter} {config : Config} {path t : String}
    (hop : f.operator = .contains) (hmode : config.containsMode = .literal) (hpath : f.fieldPath = .ok path)
    (htext : TextOf f.value t) :
    compileFilter (some (.single f)) config =
      .ok (.predicate (Document.single path (Constraint.pattern (".*" ++ Pattern.escape t ++ ".*") true).toJson)) := by
  have hconstraint : f.constraint config = .ok (.pattern (".*" ++ Pattern.escape t ++ ".*") true) := by
    simp [SingleFilter.constraint, hop, hmode, containsPattern?, searchText?_eq_some.2 htext]
  have hcompile : f.compile config = .ok (.condition ⟨path, .pattern (".*" ++ Pattern.escape t ++ ".*") true⟩) := by
    rw [SingleFilter.compile, hop, hconstraint, hpath]
    rfl
  rw [compileFilter, hcompile]
  rfl

/-- **Literal search.** A filter that asks for what contains a value, taken literally, compiles to a predicate that has
a verdict on every document: whether the text of the value stands in some text at the path, letter case aside. Only the
pattern must not be too large. -/
theorem compileFilter_contains_literal {f : SingleFilter} {config : Config} {path t : String}
    (hop : f.operator = .contains) (hmode : config.containsMode = .literal) (hpath : f.fieldPath = .ok path)
    (hkey : Text.isOperatorKey path = false) (htext : TextOf f.value t)
    (hfits : (Pattern.containing t.toList).fits = true) :
    ∃ p, compileFilter (some (.single f)) config = .ok (.predicate p) ∧
      ∀ d, ∃ b, satisfies d p = .ok b ∧ (b = true ↔ ∃ s, TextAt d path s ∧ StandsIn t s) := by
  refine ⟨_, compileFilter_of_contains hop hmode hpath htext, fun d => ?_⟩
  have hread : Pattern.read? (Flags.ofOptions "i") (".*" ++ Pattern.escape t ++ ".*") =
      some (Pattern.containing t.toList) := by
    rw [Pattern.read?_containing, if_pos hfits]
  refine ⟨_, ?_, any_occursIn_containing d path t⟩
  rw [satisfies_single, fieldVerdict_path hkey, SingleFilter.meets_pattern, matchesPattern, hread]

/-- signs of the notation and line breaks stand for themselves, and letter case does not count -/
theorem compileFilter_contains_signs :
    let p : Document := [("lines", .obj [("$options", .str "i"), ("$regex", .str ".*A\\.\\*\n\\(B.*")])]
    compileFilter (some (.single ⟨.path "lines", .contains, .str "A.*\n(B"⟩)) {} = .ok (.predicate p) ∧
      satisfies [("lines", .arr [.null, .str "1a.*\n(b2"])] p = .ok true ∧
      satisfies [("lines", .str "aaa\nb")] p = .ok false := by
  intro p
  have hmode : Config.containsMode {} = .literal := rfl
  have hpath : SingleFilter.fieldPath ⟨.path "lines", .contains, .str "A.*\n(B"⟩ = .ok "lines" := rfl
  obtain ⟨p', hp', hverdict⟩ :=
    compileFilter_contains_literal rfl hmode hpath (by decide) (.str _) (by decide +kernel)
  have hp : compileFilter (some (.single ⟨.path "lines", .contains, .str "A.*\n(B"⟩)) {} = .ok (.predicate p) := by
    rfl
  cases hp.symm.trans hp'
  have hlist : Document.resolve [("lines", .arr [.null, .str "1a.*\n(b2"])] "lines" =
      [.arr [.null, .str "1a.*\n(b2"]] := rfl
  have htext : Document.resolve [("lines", .str "aaa\nb")] "lines" = [.str "aaa\nb"] := rfl
  refine ⟨hp, ?_, ?_⟩
  · obtain ⟨b, hb, hiff⟩ := hverdict [("lines", .arr [.null, .str "1a.*\n(b2"])]
    rw [hb, hiff.2 ⟨"1a.*\n(b2", Or.inr ⟨_, hlist ▸ List.mem_cons_self, by simp⟩, by decide +kernel⟩]
  · obtain ⟨b, hb, hiff⟩ := hverdict [("lines", .str "aaa\nb")]
    have hnone : ¬b = true := by
      intro htrue
      obtain ⟨s, hs | ⟨items, hitems, -⟩, hstands⟩ := hiff.1 htrue
      · rw [htext, List.mem_singleton, Json.str.injEq] at hs
        subst hs
        exact absurd hstands (by decide +kernel)
      · rw [htext, List.mem_singleton] at hitems
        cases hitems
    rw [hb, Bool.eq_false_of_not_eq_true hnone]

end DocumentQuery
