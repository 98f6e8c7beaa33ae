/-
PATTERNS: sets of characters and conditions on places, put together by sequence, choice, repetition and grouping.
-/
import DocumentQuery.Unicode.Letter

namespace DocumentQuery

/-! ## Places -/

/-- a condition on a place between two characters -/
inductive Anchor where
  | textStart
  | textEnd
  /-- start of the text or behind a line feed -/
  | lineStart
  /-- end of the text or in front of a line feed -/
  | lineEnd
  /-- start of a line where `\r`, `\n` and `\r\n` end lines -/
  | breakStart
  /-- end of a line where `\r`, `\n` and `\r\n` end lines -/
  | breakEnd
  | wordEdge (ascii : Bool)
  | notWordEdge (ascii : Bool)
  | wordStart (ascii : Bool)
  | wordEnd (ascii : Bool)
  /-- no word character in front -/
  | wordStartHalf (ascii : Bool)
  /-- no word character behind -/
  | wordEndHalf (ascii : Bool)
  deriving DecidableEq, Repr

/-- whether there is a character and it belongs to a word -/
def isWordAt (ascii : Bool) : Option Char → Bool
  | some c => if ascii then CharSet.asciiWord.contains c else Unicode.wordChars.contains c
  | none => false

/-- whether the condition holds between the two neighbours, either of which may be missing -/
def Anchor.holds : Anchor → Option Char → Option Char → Bool
  | .textStart, before, _ => before.isNone
  | .textEnd, _, after => after.isNone
  | .lineStart, before, _ => before.isNone || before == some '\n'
  | .lineEnd, _, after => after.isNone || after == some '\n'
  | .breakStart, before, after => before.isNone || before == some '\n' || (before == some '\r' && after != some '\n')
  | .breakEnd, before, after => after.isNone || after == some '\r' || (after == some '\n' && before != some '\r')
  | .wordEdge a, before, after => isWordAt a before != isWordAt a after
  | .notWordEdge a, before, after => isWordAt a before == isWordAt a after
  | .wordStart a, before, after => !isWordAt a before && isWordAt a after
  | .wordEnd a, before, after => isWordAt a before && !isWordAt a after
  | .wordStartHalf a, before, _ => !isWordAt a before
  | .wordEndHalf a, _, after => !isWordAt a after

/-! ## Patterns -/

/-- a pattern; of two ways to match the same places none is preferred, so that `greedy` and `numbered` say nothing
about what matches -/
inductive Pattern where
  | empty
  | set (s : CharSet)
  | look (a : Anchor)
  | seq (p q : Pattern)
  | alt (p q : Pattern)
  /-- from `least` to `most` times, without a limit if there is no `most` -/
  | many (least : Nat) (most : Option Nat) (greedy : Bool) (p : Pattern)
  | group (numbered : Bool) (p : Pattern)
  deriving Repr

end DocumentQuery
