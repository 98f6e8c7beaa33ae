/-
DIGITS and the numbers that they write.
-/

namespace DocumentQuery

/-- decimal digits of a number, without leading zeros -/
def decimalDigits (n : Nat) : List Char := Nat.toDigits 10 n

/-- number that decimal digits write; zero for none -/
def decimalValue (ds : List Char) : Nat := ds.foldl (fun n c => 10 * n + (c.toNat - '0'.toNat)) 0

/-- decimal digits at the front, and what follows them -/
def spanDigits (cs : List Char) : List Char × List Char := (cs.takeWhile Char.isDigit, cs.dropWhile Char.isDigit)

/-- value of a hexadecimal digit in either case -/
def hexValue? (c : Char) : Option Nat :=
  if '0' ≤ c ∧ c ≤ '9' then some (c.toNat - '0'.toNat)
  else if 'a' ≤ c ∧ c ≤ 'f' then some (c.toNat - 'a'.toNat + 10)
  else if 'A' ≤ c ∧ c ≤ 'F' then some (c.toNat - 'A'.toNat + 10)
  else none

/-- last hexadecimal digit of a number, in lower case -/
def lowerHex (n : Nat) : Char := (Nat.toDigits 16 n).getLast?.getD '0'

end DocumentQuery
