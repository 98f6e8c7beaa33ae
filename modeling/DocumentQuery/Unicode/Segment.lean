/-
SEGMENTS of texts: how characters take part in what a reader sees as one character, in words and in sentences. Every
property here divides the characters into classes; a character in none of them does not matter.
-/
import DocumentQuery.Unicode.Emoji
import DocumentQuery.Unicode.Identifier
import DocumentQuery.Unicode.Script
import DocumentQuery.Unicode.Symbol

namespace DocumentQuery.Unicode

/-! ## Graphemes -/

/-- characters that never stand alone though they are not such marks by category -/
def otherGraphemeExtend : CharSet := setTable
  ["9BE 9D7 B3E B57 BBE BD7 CC0 CC2 CC7-CC8 CCA-CCB CD5-CD6 D3E D57 DCF DDF 1715 1734 1B35 1B3B 1B3D 1B43-1B44 1BAA",
   "1BF2-1BF3 200C 302E-302F A953 A9C0 FF9E-FF9F 111C0 11235 1133E 1134D 11357 113B8 113C2 113C5 113C7-113C9 113CF",
   "114B0 114BD 115AF 116B6 11930 1193D 11F41 16FF0-16FF1 1D165-1D166 1D16D-1D172 E0020-E007F"]

/-- marks that join consonants -/
def graphemeLink : CharSet := setTable
  ["94D 9CD A4D ACD B4D BCD C4D CCD D3B-D3C D4D DCA E3A EBA F84 1039-103A 1714-1715 1734 17D2 1A60 1B44 1BAA-1BAB",
   "1BF2-1BF3 2D7F A806 A82C A8C4 A953 A9C0 AAF6 ABED 10A3F 11046 11070 1107F 110B9 11133-11134 111C0 11235 112EA",
   "1134D 113CE-113D0 11442 114C2 115BF 1163F 116B6 1172B 11839 1193D-1193E 119E0 11A34 11A47 11A99 11C3F",
   "11D44-11D45 11D97 11F41-11F42 1612F"]

def graphemeExtend : CharSet := .unions [category "Mn", category "Me", otherGraphemeExtend]

/-- characters that marks can be put on -/
def graphemeBase : CharSet :=
  (CharSet.unions [category "C", category "Zl", category "Zp", graphemeExtend]).compl

/-- consonants that go with the one behind them -/
def otherPrepend : CharSet := setTable ["D4E 111C2-111C3 113D1 1193F 11941 11A3A 11A84-11A89 11D46 11F02"]

/-- spacing marks that can stand alone -/
def freeSpacingMarks : CharSet := setTable
  ["102B-102C 1038 1062-1064 1067-106D 1083 1087-108C 108F 109A-109C 1A61 1A63-1A64 AA7B AA7D 11720-11721"]

/-- vowels that cannot stand alone though they are letters by category -/
def attachedVowels : CharSet := setTable ["E33 EB3"]

/-- consonants that begin a syllable of Hangul -/
def leadingJamo : CharSet := setTable ["1100-115F A960-A97C"]

/-- vowels of Hangul, and vowels of another script that join like them -/
def vowelJamo : CharSet := setTable ["1160-11A7 D7B0-D7C6 16D63 16D67-16D6A"]

/-- consonants that end a syllable of Hangul -/
def trailingJamo : CharSet := setTable ["11A8-11FF D7CB-D7FB"]

/-- syllables of Hangul that end with a vowel -/
def openSyllables : CharSet := setTable ["AC00-D788/1C"]

/-- syllables of Hangul -/
def syllables : CharSet := setTable ["AC00-D7A3"]

/-- line breaks, and code points that control the text around them -/
def graphemeControl : CharSet :=
  let unassigned := (category "Cn").inter defaultIgnorable
  (CharSet.unions [category "Zl", category "Zp", category "Cc", category "Cf", unassigned]).diff
    (.unions [.char '\r', .char '\n', joinControl, prependedConcatenationMark, graphemeExtend])

/-- classes of characters at the edges of graphemes, by short name -/
def graphemeBreaks : List (String × CharSet) :=
  [("cn", graphemeControl), ("cr", .char '\r'), ("ex", graphemeExtend.union emojiModifier), ("l", leadingJamo),
   ("lf", .char '\n'), ("lv", openSyllables), ("lvt", syllables.diff openSyllables),
   ("pp", prependedConcatenationMark.union otherPrepend), ("ri", regionalIndicator),
   ("sm", ((category "Mc").union attachedVowels).diff (graphemeExtend.union freeSpacingMarks)), ("t", trailingJamo),
   ("v", vowelJamo), ("zwj", .char '\u200d')]

/-! ## Words -/

/-- marks between letters of one word -/
def middleLetters : CharSet := setTable ["3A B7 387 55F 5F4 2027 FE13 FE55 FF1A"]

/-- marks between digits of one number -/
def middleNumbers : CharSet := setTable ["2C 3B 37E 589 60C-60D 66C 7F8 2044 FE10 FE14 FE50 FE54 FF0C FF1B"]

/-- marks between letters of one word or digits of one number -/
def middleBoth : CharSet := setTable ["2E 2018-2019 2024 FE52 FF07 FF0E"]

/-- line breaks other than the carriage return and the line feed -/
def newlines : CharSet := setTable ["B-C 85 2028-2029"]

/-- blanks that may be broken at -/
def wordBlanks : CharSet := setTable ["20 1680 2000-2006 2008-200A 205F 3000"]

/-- signs used with Katakana -/
def katakanaSigns : CharSet := setTable ["3031-3035 309B-309C 30A0 30FC FF70"]

/-- signs that count as letters in words -/
def otherLetters : CharSet := setTable
  ["B8 2C2-2C5 2D2-2D7 2DE-2DF 2E5-2EB 2ED 2EF-2FF 55A-55C 55E 58A 5F3 70F A708-A716 A720-A721 A789-A78A AB5B"]

/-- letters of scripts that put no spaces between words -/
def unspacedLetters : CharSet := setTable
  ["E01-E30 E32-E33 E40-E46 E81-E82 E84 E86-E8A E8C-EA3 EA5 EA7-EB0 EB2-EB3 EBD EC0-EC4 EC6 EDC-EDF 1000-102A 103F",
   "1050-1055 105A-105D 1061 1065-1066 106E-1070 1075-1081 108E 1780-17B3 17D7 17DC 1950-196D 1970-1974 1980-19AB",
   "19B0-19C9 1A20-1A54 1AA7 A9E0-A9E4 A9E6-A9EF A9FA-A9FE AA60-AA76 AA7A AA7E-AAAF AAB1 AAB5-AAB6 AAB9-AABD AAC0",
   "AAC2 AADB-AADD 11700-1171A 11740-11746"]

/-- format characters without the blanks, joiners and signs among them that have a class of their own -/
def format : CharSet :=
  (category "Cf").diff (.unions [joinControl, prependedConcatenationMark, graphemeExtend])

def katakana : CharSet := (script "Kana").union katakanaSigns

def hebrewLetter : CharSet := (script "Hebr").inter (category "Lo")

/-- signs that stand over or under digits -/
def numberSigns : CharSet := prependedConcatenationMark.diff (.char '\u070f')

def wordExtend : CharSet := .unions [graphemeExtend, category "Mc", emojiModifier]

def wordNumeric : CharSet := .unions [decimalDigit, .range 0x66B 0x66B, .range 0x19DA 0x19DA, numberSigns]

def wordLetter : CharSet :=
  (alphabetic.diff (.unions [wordExtend, katakana, hebrewLetter, script "Hira", ideographic, unspacedLetters])).union
    otherLetters

/-- classes of characters at the edges of words, by short name -/
def wordBreaks : List (String × CharSet) :=
  [("cr", .char '\r'), ("dq", .char '"'), ("ex", (category "Pc").union (.char '\u202f')), ("extend", wordExtend),
   ("fo", format.diff (.char '\u200b')), ("hl", hebrewLetter), ("ka", katakana), ("le", wordLetter),
   ("lf", .char '\n'), ("mb", middleBoth), ("ml", middleLetters), ("mn", middleNumbers), ("nl", newlines),
   ("nu", wordNumeric), ("ri", regionalIndicator), ("sq", .char '\''), ("wsegspace", wordBlanks),
   ("zwj", .char '\u200d')]

/-! ## Sentences -/

/-- full stops, which also end abbreviations -/
def fullStops : CharSet := setTable ["2E 2024 FE52 FF0E"]

/-- marks behind which a sentence goes on -/
def sentenceContinue : CharSet := setTable
  ["2C-2D 3A-3B 37E 55D 60C-60D 7F8 1802 1808 2013-2014 3001 FE10-FE11 FE13-FE14 FE31-FE32 FE50-FE51 FE54-FE55 FE58",
   "FE63 FF0C-FF0D FF1A-FF1B FF64"]

/-- quotation marks and ornaments that are no brackets by category -/
def otherCloses : CharSet := setTable ["22 27 275B-2760 2E00-2E01 2E06-2E08 2E0B 1F676-1F678"]

/-- line breaks of one character other than the carriage return and the line feed -/
def lineSeparators : CharSet := setTable ["85 2028-2029"]

/-- upper-case letters of a script that does not begin sentences with them -/
def georgianCapitals : CharSet := setTable ["1C90-1CBA 1CBD-1CBF"]

def sentenceExtend : CharSet := .unions [graphemeExtend, category "Mc", .char '\u200d']

def sentenceLower : CharSet := (lowercase.diff graphemeExtend).diff georgianLetters

def sentenceUpper : CharSet := (uppercase.union titlecase).diff georgianCapitals

def sentenceStops : CharSet := sentenceTerminal.diff fullStops

def sentenceLetter : CharSet :=
  (alphabetic.union (.char '\u05f3')).diff (.unions [sentenceLower, sentenceUpper, sentenceExtend])

def sentenceClose : CharSet :=
  (CharSet.unions [category "Ps", category "Pe", category "Pi", category "Pf", otherCloses]).diff
    (fullStops.union sentenceStops)

/-- classes of characters at the edges of sentences, by short name -/
def sentenceBreaks : List (String × CharSet) :=
  [("at", fullStops), ("cl", sentenceClose), ("cr", .char '\r'), ("ex", sentenceExtend),
   ("fo", format.union (.char '\u070f')), ("le", sentenceLetter), ("lf", .char '\n'), ("lo", sentenceLower),
   ("nu", wordNumeric.union (.char '\u066c')), ("sc", sentenceContinue), ("se", lineSeparators),
   ("sp", whiteSpace.diff (.unions [.char '\r', .char '\n', lineSeparators])), ("st", sentenceStops),
   ("up", sentenceUpper)]

end DocumentQuery.Unicode
