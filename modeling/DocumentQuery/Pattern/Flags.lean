/-
FLAGS under which the notation of patterns is read, and the blanks and comments that do not count under one of them.
-/
import DocumentQuery.Text

namespace DocumentQuery

/-! ## Flags -/

/-- how the notation is read at some place -/
structure Flags where
  ignoreCase : Bool := false
  /-- `^` and `$` match at line breaks -/
  multiLine : Bool := false
  /-- `.` matches line breaks -/
  dotAll : Bool := false
  /-- blanks and comments are skipped -/
  extended : Bool := false
  /-- classes and letter case cover all characters, not only ASCII -/
  unicode : Bool := true
  /-- `\r` ends lines, too -/
  carriageReturn : Bool := false
  /-- repetitions are lazy unless marked, and greedy if marked -/
  swapGreed : Bool := false
  deriving DecidableEq, Repr

/-- sets or clears a flag by its letter -/
def Flags.put? (f : Flags) (letter : Char) (on : Bool) : Option Flags :=
  match letter with
  | 'i' => some { f with ignoreCase := on }
  | 'm' => some { f with multiLine := on }
  | 's' => some { f with dotAll := on }
  | 'x' => some { f with extended := on }
  | 'u' => some { f with unicode := on }
  | 'R' => some { f with carriageReturn := on }
  | 'U' => some { f with swapGreed := on }
  | _ => none

/-- flags by the letters that a text holds; other letters mean nothing -/
def Flags.ofOptions (options : String) : Flags :=
  let has (c : Char) : Bool := options.toList.contains c
  { ignoreCase := has 'i', multiLine := has 'm', dotAll := has 's', extended := has 'x' }

/-! ## Blanks -/

namespace Pattern

mutual

/-- drops blanks and comments -/
def skipBlanks : List Char → List Char
  | [] => []
  | c :: rest => if Unicode.isBlank c then skipBlanks rest else if c = '#' then skipComment rest else c :: rest

/-- drops the rest of a line, and blanks and comments behind it -/
def skipComment : List Char → List Char
  | [] => []
  | c :: rest => if c = '\n' then skipBlanks rest else skipComment rest

end

/-- what follows, without blanks and comments where they do not count -/
def skip (f : Flags) (cs : List Char) : List Char := if f.extended then skipBlanks cs else cs

/-- the character that decides what a hyphen in a class means: the first one that is no blank, where one number sign
counts as a blank but the comment behind it does not. If there is none, it is the one right behind the hyphen -/
def signBehind (f : Flags) (cs : List Char) : Option Char :=
  let rest := cs.dropWhile Unicode.isBlank
  let rest := if rest.head? = some '#' then (rest.drop 1).dropWhile Unicode.isBlank else rest
  if f.extended then rest.head?.or cs.head? else cs.head?

end Pattern

end DocumentQuery
