/-
ESCAPED TEXT AS A PATTERN. The notation of a text, with `.*` on both sides, is read as what it stands for: anything in a
line, the characters of the text in a row whatever their case, and again anything in the line. It is refused only if it
takes too much room.

- `readItem_escaped`: the notation of one character is read as that character;
- `readChoice_item`, `readChoice_repeater`: one step of the reader, at an item and at a sign that repeats one;
- `readChoice_text`: the notation of a text is read as its characters, one after another;
- `read?_containing`: the whole pattern.
-/
import DocumentQuery.Pattern.Reader

namespace DocumentQuery.Pattern

/-- flags under which texts are searched for: letter case does not count -/
abbrev caseless : Flags := Flags.ofOptions "i"

/-- a character in any case -/
def caselessChar (c : Char) : Pattern := .set (.ofChars (Unicode.caseVariants c))

/-- anything in a line -/
def anyInLine : Pattern := .many 0 none true (.set .notLineFeed)

/-- patterns in a row -/
def inRow (ps : List Pattern) : Pattern := ps.foldr .seq .empty

/-- a line that contains a text, letter case aside -/
def containing (text : List Char) : Pattern := inRow (anyInLine :: text.map caselessChar ++ [anyInLine])

/-! ## Single characters -/

theorem escapeChars_cons (c : Char) (cs : List Char) : escapeChars (c :: cs) = escapeChars [c] ++ escapeChars cs := by
  by_cases h : isMeta c = true
  · simp [escapeChars, h]
  · simp [escapeChars, h]

/-- characters with a meaning of their own -/
theorem isMeta_iff {c : Char} : isMeta c = true ↔
    c ∈ ['\\', '.', '+', '*', '?', '(', ')', '|', '[', ']', '\x7b', '\x7d', '^', '$', '#', '&', '-', '~'] := by
  simp [isMeta]

theorem readEscape_of_isMeta {c : Char} (h : isMeta c = true) (rest : List Char) :
    readEscape caseless (c :: rest) = some (.char c false, rest) := by
  rw [isMeta_iff] at h
  simp only [List.mem_cons, List.not_mem_nil, or_false] at h
  rcases h with rfl | rfl | rfl | rfl | rfl | rfl | rfl | rfl | rfl | rfl | rfl | rfl | rfl | rfl | rfl | rfl | rfl |
    rfl
  all_goals rfl

theorem escapeChars_of_isMeta {c : Char} (h : isMeta c = true) : escapeChars [c] = ['\\', c] := by
  simp [escapeChars, h]

theorem escapeChars_of_not_isMeta {c : Char} (h : ¬isMeta c = true) : escapeChars [c] = [c] := by
  simp [escapeChars, h]

/-- the notation of a character is read as that character, in any case -/
theorem readItem_escaped (c : Char) (rest : List Char) :
    readItem caseless (escapeChars [c] ++ rest) = some (caselessChar c, rest) := by
  by_cases h : isMeta c = true
  · rw [escapeChars_of_isMeta h]
    show (readEscape caseless (c :: rest)).bind _ = _
    rw [readEscape_of_isMeta h]
    rfl
  · rw [escapeChars_of_not_isMeta h]
    rw [isMeta_iff] at h
    show readItem caseless (c :: rest) = _
    unfold readItem
    split <;> simp_all
    rfl

/-- a character that opens nothing and repeats nothing begins an item of the sequence -/
theorem readChoice_item {c : Char} {cs rest : List Char} {p : Pattern} (steps : Nat) (names : List String)
    (parts branches : List Part) (hfirst : c ∉ [')', '(', '|', '[']) (hrepeater : isRepeater c = false)
    (hread : readItem caseless (c :: cs) = some (p, rest)) :
    readChoice (steps + 1) caseless names parts branches (c :: cs) =
      readChoice steps caseless names (Part.of p :: parts) branches rest := by
  have hskip : skip caseless (c :: cs) = c :: cs := rfl
  conv =>
    lhs
    unfold readChoice
  rw [hskip]
  split <;> simp_all

/-- a character that repeats is taken with the part in front of it -/
theorem readChoice_repeater {c : Char} {cs rest : List Char} {least : Nat} {most : Option Nat} {greedy : Bool}
    {parts repeated : List Part} (steps : Nat) (names : List String) (branches : List Part)
    (hrepeater : isRepeater c = true) (hread : readRepetition caseless c cs = some (least, most, greedy, rest))
    (hrepeat : repeatLast? parts least most greedy = some repeated) :
    readChoice (steps + 1) caseless names parts branches (c :: cs) =
      readChoice steps caseless names repeated branches rest := by
  have hskip : skip caseless (c :: cs) = c :: cs := rfl
  conv =>
    lhs
    unfold readChoice
  rw [hskip]
  split <;> simp_all [isRepeater]

/-- the notation of a character is one item of a sequence -/
theorem readChoice_escaped (c : Char) (steps : Nat) (names : List String) (parts branches : List Part)
    (rest : List Char) :
    readChoice (steps + 1) caseless names parts branches (escapeChars [c] ++ rest) =
      readChoice steps caseless names (Part.of (caselessChar c) :: parts) branches rest := by
  have hitem := readItem_escaped c rest
  by_cases h : isMeta c = true
  · rw [escapeChars_of_isMeta h] at hitem ⊢
    exact readChoice_item steps names parts branches (by decide) rfl hitem
  · rw [escapeChars_of_not_isMeta h] at hitem ⊢
    rw [isMeta_iff] at h
    refine readChoice_item steps names parts branches ?_ ?_ hitem
    · intro hfirst
      exact h ((by decide : [')', '(', '|', '['] ⊆ _) hfirst)
    · simp_all [isRepeater]

/-- the notation of a text is read as its characters, one after another -/
theorem readChoice_text (text : List Char) (steps : Nat) (names : List String) (parts branches : List Part)
    (rest : List Char) :
    readChoice (steps + text.length) caseless names parts branches (escapeChars text ++ rest) =
      readChoice steps caseless names ((text.map fun c => Part.of (caselessChar c)).reverse ++ parts) branches
        rest := by
  induction text generalizing parts with
  | nil => rfl
  | cons c text ih =>
    rw [escapeChars_cons, List.append_assoc, List.length_cons, ← Nat.add_assoc, readChoice_escaped, ih]
    simp

/-! ## The whole pattern -/

/-- anything in a line, in front of the notation of a text -/
theorem readChoice_anyInLine (steps : Nat) (names : List String) (parts branches : List Part) (rest : List Char)
    (hrest : readGreed caseless rest = (true, rest)) :
    readChoice (steps + 2) caseless names parts branches ('.' :: '*' :: rest) =
      readChoice steps caseless names (⟨some anyInLine, 1⟩ :: parts) branches rest := by
  have hdot : readItem caseless ('.' :: '*' :: rest) = some (.set .notLineFeed, '*' :: rest) := rfl
  have hstar : readRepetition caseless '*' rest = some (0, none, true, rest) := by
    show some (0, none, readGreed caseless rest) = _
    rw [hrest]
  rw [readChoice_item (steps + 1) names parts branches (by decide) rfl hdot]
  exact readChoice_repeater steps names branches rfl hstar rfl

/-- the notation of a text does not begin with a question mark, which would change the greed in front of it -/
theorem readGreed_escaped (text rest : List Char) :
    readGreed caseless (escapeChars text ++ '.' :: rest) = (true, escapeChars text ++ '.' :: rest) := by
  unfold readGreed
  split
  · next hfirst =>
    cases text with
    | nil => cases hfirst
    | cons c text =>
      rw [escapeChars] at hfirst
      split at hfirst
      · cases hfirst
      · next hmeta =>
        cases hfirst
        exact absurd rfl hmeta
  · rfl

theorem length_le_escapeChars (text : List Char) : text.length ≤ (escapeChars text).length := by
  induction text with
  | nil => exact Nat.le_refl _
  | cons c text ih =>
    rw [escapeChars]
    split
    · exact Nat.succ_le_succ (Nat.le_succ_of_le ih)
    · exact Nat.succ_le_succ ih

/-- at least two parts in reverse, as one part -/
theorem sequenceOf_reverse (p q : Part) (row : List Part) :
    sequenceOf (p :: row ++ [q]).reverse =
      ⟨some (inRow ((p :: row ++ [q]).map fun part => part.pattern.getD .empty)),
        (p :: row ++ [q]).reverse.foldl (fun d part => max d part.depth) 0 + 1⟩ := by
  have hpattern : (p :: row ++ [q]).reverse.foldl (fun rest part => .seq (part.pattern.getD .empty) rest) .empty =
      inRow ((p :: row ++ [q]).map fun part => part.pattern.getD .empty) := by
    rw [List.foldl_reverse, inRow, List.foldr_map]
  have hlist : ∃ r rs, (p :: row ++ [q]).reverse = q :: r :: rs := by
    obtain ⟨r, rs, h⟩ := List.exists_cons_of_ne_nil (show row.reverse ++ [p] ≠ [] by simp)
    exact ⟨r, rs, by simp [← h]⟩
  rw [← hpattern]
  obtain ⟨r, rs, hlist⟩ := hlist
  rw [hlist]
  rfl

theorem foldl_depth_le {parts : List Part} {n d : Nat} (hd : d ≤ n) (h : ∀ p ∈ parts, p.depth ≤ n) :
    parts.foldl (fun d p => max d p.depth) d ≤ n := by
  induction parts generalizing d with
  | nil => exact hd
  | cons p parts ih =>
    have hp : p.depth ≤ n := h p List.mem_cons_self
    exact ih (Nat.max_le.2 ⟨hd, hp⟩) fun q hq => h q (List.mem_cons_of_mem _ hq)

/-- the parts of the whole pattern, in the order in which they stand -/
def containingParts (text : List Char) : List Part :=
  ⟨some anyInLine, 1⟩ :: text.map (fun c => Part.of (caselessChar c)) ++ [⟨some anyInLine, 1⟩]

theorem sequenceOf_containingParts (text : List Char) :
    ∃ depth, depth ≤ depthLimit ∧ sequenceOf (containingParts text).reverse = ⟨some (containing text), depth⟩ := by
  refine ⟨(containingParts text).reverse.foldl (fun d part => max d part.depth) 0 + 1, ?_, ?_⟩
  · have hdepths : ∀ p ∈ (containingParts text).reverse, p.depth ≤ 1 := by
      intro p hp
      rcases List.mem_append.1 (List.mem_reverse.1 hp) with hp | hp
      · rcases List.mem_cons.1 hp with rfl | hp
        · exact Nat.le_refl _
        · obtain ⟨c, -, rfl⟩ := List.mem_map.1 hp
          exact Nat.zero_le _
      · obtain rfl := List.mem_singleton.1 hp
        exact Nat.le_refl _
    exact Nat.succ_le_of_lt (Nat.lt_of_le_of_lt (foldl_depth_le (Nat.zero_le 1) hdepths) (by decide))
  · rw [containingParts, sequenceOf_reverse]
    simp [containing, Part.of, Function.comp_def]

theorem readChoice_containing (text : List Char) (steps : Nat) :
    readChoice (steps + 1 + 2 + text.length + 2) caseless [] [] [] ('.' :: '*' :: (escapeChars text ++ ['.', '*'])) =
      some (sequenceOf (containingParts text).reverse, [], []) := by
  have hend : readGreed caseless [] = (true, []) := rfl
  rw [readChoice_anyInLine _ _ _ _ _ (readGreed_escaped text ['*']), readChoice_text,
    readChoice_anyInLine _ _ _ _ _ hend]
  have hparts : ⟨some anyInLine, 1⟩ :: ((text.map fun c => Part.of (caselessChar c)).reverse ++
      [⟨some anyInLine, 1⟩]) = (containingParts text).reverse := by
    simp [containingParts]
  rw [hparts]
  rfl

/-- **Escaped text.** The notation of a text between two `.*` is read as a line that contains the text, if that fits. -/
theorem read?_containing (text : String) :
    read? caseless (".*" ++ escape text ++ ".*") =
      if (containing text.toList).fits then some (containing text.toList) else none := by
  have hlist : (".*" ++ escape text ++ ".*").toList = '.' :: '*' :: (escapeChars text.toList ++ ['.', '*']) := by
    simp [escape]
  have hsteps : ('.' :: '*' :: (escapeChars text.toList ++ ['.', '*'])).length + 1 =
      ((escapeChars text.toList).length - text.toList.length) + 1 + 2 + text.toList.length + 2 := by
    have hle := length_le_escapeChars text.toList
    simp only [List.length_cons, List.length_append, List.length_nil]
    omega
  obtain ⟨depth, hdepth, hpart⟩ := sequenceOf_containingParts text.toList
  unfold read?
  rw [hlist]
  dsimp only
  rw [hsteps, readChoice_containing, hpart]
  simp [hdepth]

end DocumentQuery.Pattern
