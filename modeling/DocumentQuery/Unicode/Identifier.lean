/-
IDENTIFIERS: characters that names may begin with and go on with, also in a form that stays a name under compatibility
mappings, and characters kept for the notation around names.
-/
import DocumentQuery.Unicode.Letter

namespace DocumentQuery.Unicode

/-- characters kept for operators and brackets -/
def patternSyntax : CharSet := setTable
  ["21-2F 3A-40 5B-5E 60 7B-7E A1-A7 A9 AB-AC AE B0-B1 B6 BB BF D7 F7 2010-2027 2030-203E 2041-2053 2055-205E",
   "2190-245F 2500-2775 2794-2BFF 2E00-2E7F 3001-3003 3008-3020 3030 FD3E-FD3F FE45-FE46"]

/-- blanks between names -/
def patternWhiteSpace : CharSet := setTable ["9-D 20 85 200E-200F 2028-2029"]

/-- characters that begin names for the sake of old ones -/
def otherIdStart : CharSet := setTable ["1885-1886 2118 212E 309B-309C"]

/-- characters that go on with names for the sake of old ones -/
def otherIdContinue : CharSet := setTable ["B7 387 1369-1371 19DA 200C-200D 30FB FF65"]

/-- a set without the characters that are kept for notation -/
def withoutNotation (s : CharSet) : CharSet := (s.diff patternSyntax).diff patternWhiteSpace

def idStart : CharSet := withoutNotation (.unions [category "L", category "Nl", otherIdStart])

def idContinue : CharSet :=
  withoutNotation (.unions [idStart, category "Mn", category "Mc", decimalDigit, category "Pc", otherIdContinue])

/-- characters that compatibility mappings turn into something else than a name -/
def unstableNames : CharSet := setTable ["37A 309B-309C FC5E-FC63 FDFA-FDFB FE70-FE7E/2"]

/-- characters that compatibility mappings turn into something that begins no name -/
def unstableStarts : CharSet := setTable ["E33 EB3 FF9E-FF9F"]

def xidStart : CharSet := (idStart.diff unstableNames).diff unstableStarts

def xidContinue : CharSet := idContinue.diff unstableNames

/-- mathematical symbols that may begin names -/
def idCompatMathStart : CharSet := setTable
  ["2202 2207 221E 1D6C1 1D6DB 1D6FB 1D715 1D735 1D74F 1D76F 1D789 1D7A9 1D7C3"]

/-- raised and lowered digits and signs -/
def mathScripts : CharSet := setTable ["B2-B3 B9 2070 2074-207E 2080-208E"]

def idCompatMathContinue : CharSet := idCompatMathStart.union mathScripts

end DocumentQuery.Unicode
