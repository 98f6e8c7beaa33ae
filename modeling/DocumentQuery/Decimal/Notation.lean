/-
TEXT OF FLOATS. Two notations of the same shortest digits: `jsonText` is positional for middle exponents, always with a
fraction, and scientific beyond them; `plainText` never uses an exponent and drops an empty fraction.
-/
import DocumentQuery.Decimal.Shortest

namespace DocumentQuery

/-- where a notation ends and how it is written -/
structure FloatStyle where
  /-- least decimal exponent that is written positionally -/
  least : Option Int
  /-- greatest decimal exponent that is written positionally -/
  greatest : Option Int
  /-- whether a whole number carries the fraction `.0` -/
  keepsFraction : Bool

/-- numbers of JSON documents: positional from 0.00001 to 10^16, and always recognisable as floats -/
def FloatStyle.json : FloatStyle := ⟨some (-5), some 15, true⟩

/-- numbers in prose: positional throughout -/
def FloatStyle.plain : FloatStyle := ⟨none, none, false⟩

def zeros (n : Nat) : List Char := List.replicate n '0'

/-- digits with a decimal point behind the first `whole` of them, where `whole` may lie outside of the digits -/
def positional (style : FloatStyle) (ds : List Char) (whole : Int) : List Char :=
  if whole ≤ 0 then '0' :: '.' :: zeros (-whole).toNat ++ ds
  else if (ds.length : Int) ≤ whole then
    ds ++ zeros (whole.toNat - ds.length) ++ (if style.keepsFraction then ['.', '0'] else [])
  else ds.take whole.toNat ++ '.' :: ds.drop whole.toNat

/-- digits with a point behind the first one, and a signed exponent -/
def scientific (ds : List Char) (e : Int) : List Char :=
  let mantissa := match ds with
    | [d] => [d]
    | d :: rest => d :: '.' :: rest
    | [] => []
  mantissa ++ 'e' :: (if e < 0 then '-' else '+') :: decimalDigits e.natAbs

/-- text of a finite float -/
def FloatStyle.text (style : FloatStyle) (x : Float) : String :=
  let d := shortest x
  let ds := decimalDigits d.digits
  let e : Int := d.exponent + ds.length - 1
  let sign := if isNegative x then ['-'] else []
  let inside := style.least.all (fun low => low ≤ e) && style.greatest.all (fun high => e ≤ high)
  String.ofList (sign ++ if d.digits = 0 ∨ inside then positional style ds (e + 1) else scientific ds e)

def jsonText (x : Float) : String := FloatStyle.json.text x

def plainText (x : Float) : String := FloatStyle.plain.text x

end DocumentQuery
