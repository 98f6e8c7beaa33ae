/-
PROPERTIES OF CHARACTERS by the names that patterns use for them, and the set of characters behind each name.

A property is named alone (`Lu`, `Greek`, `White_Space`) or together with its value (`sc=Greek`, `age=6.0`). Letter
case, spaces, hyphens and underscores in a name do not count, and neither does a leading `is`.
-/
import DocumentQuery.Unicode.Age
import DocumentQuery.Unicode.Emoji
import DocumentQuery.Unicode.Identifier
import DocumentQuery.Unicode.Letter
import DocumentQuery.Unicode.ScriptExtension
import DocumentQuery.Unicode.Segment
import DocumentQuery.Unicode.Symbol

namespace DocumentQuery.Unicode

/-! ## Names -/

/-- the ASCII part of a name without letter case and separators -/
def plainName (cs : List Char) : String :=
  String.ofList ((cs.filter fun c => c.toNat < 128 && c != ' ' && c != '_' && c != '-').map Char.toLower)

/-- a name without letter case, separators and a leading `is`; a `c` behind `is` is the abbreviation of a property that
no pattern can ask for, not the category of that name -/
def normalName (name : String) : String :=
  match name.toList with
  | i :: s :: rest =>
    if i.toLower = 'i' ∧ s.toLower = 's' then (if plainName rest = "c" then "isc" else plainName rest)
    else plainName (i :: s :: rest)
  | cs => plainName cs

/-! ## Properties with a value of yes or no -/

/-- properties of letters, by normal name -/
def letterProperty? : String → Option CharSet
  | "alpha" | "alphabetic" => some alphabetic
  | "cased" => some cased
  | "ci" | "caseignorable" => some (.unions [category "Mn", category "Me", category "Cf", category "Lm", category "Sk",
      middleLetters, middleBoth, .char '\''])
  | "cwcf" | "changeswhencasefolded" => some changesWhenCasefolded
  | "cwcm" | "changeswhencasemapped" => some changesWhenCasemapped
  | "cwl" | "changeswhenlowercased" => some changesWhenLowercased
  | "cwt" | "changeswhentitlecased" => some changesWhenTitlecased
  | "cwu" | "changeswhenuppercased" => some changesWhenUppercased
  | "dia" | "diacritic" => some diacritic
  | "ext" | "extender" => some extender
  | "ideo" | "ideographic" => some ideographic
  | "idsb" | "idsbinaryoperator" => some idsBinaryOperator
  | "idst" | "idstrinaryoperator" => some idsTrinaryOperator
  | "idsu" | "idsunaryoperator" => some idsUnaryOperator
  | "joinc" | "joincontrol" => some joinControl
  | "loe" | "logicalorderexception" => some logicalOrderException
  | "lower" | "lowercase" => some lowercase
  | "mcm" | "modifiercombiningmark" => some modifierCombiningMark
  | "oalpha" | "otheralphabetic" => some otherAlphabetic
  | "olower" | "otherlowercase" => some otherLowercase
  | "oupper" | "otheruppercase" => some otherUppercase
  | "radical" => some radical
  | "sd" | "softdotted" => some softDotted
  | "uideo" | "unifiedideograph" => some unifiedIdeograph
  | "upper" | "uppercase" => some uppercase
  | _ => none

/-- properties of signs, by normal name -/
def symbolProperty? : String → Option CharSet
  | "ahex" | "asciihexdigit" => some asciiHexDigit
  | "bidic" | "bidicontrol" => some bidiControl
  | "bidim" | "bidimirrored" => some bidiMirrored
  | "dash" => some dash
  | "dep" | "deprecated" => some deprecated
  | "di" | "defaultignorablecodepoint" => some defaultIgnorable
  | "hex" | "hexdigit" => some hexDigit
  | "hyphen" => some hyphen
  | "math" => some mathematical
  | "nchar" | "noncharactercodepoint" => some noncharacter
  | "odi" | "otherdefaultignorablecodepoint" => some otherDefaultIgnorable
  | "omath" | "othermath" => some otherMath
  | "pcm" | "prependedconcatenationmark" => some prependedConcatenationMark
  | "qmark" | "quotationmark" => some quotationMark
  | "space" | "whitespace" | "wspace" => some whiteSpace
  | "sterm" | "sentenceterminal" => some sentenceTerminal
  | "term" | "terminalpunctuation" => some terminalPunctuation
  | "vs" | "variationselector" => some variationSelector
  | _ => none

/-- properties of emoji, by normal name -/
def emojiProperty? : String → Option CharSet
  | "ebase" | "emojimodifierbase" => some emojiModifierBase
  | "ecomp" | "emojicomponent" => some emojiComponent
  | "emod" | "emojimodifier" => some emojiModifier
  | "emoji" => some emoji
  | "epres" | "emojipresentation" => some emojiPresentation
  | "extpict" | "extendedpictographic" => some pictographic
  | "ri" | "regionalindicator" => some regionalIndicator
  | _ => none

/-- properties that say what names and graphemes are made of, by normal name -/
def roleProperty? : String → Option CharSet
  | "grbase" | "graphemebase" => some graphemeBase
  | "grext" | "graphemeextend" => some graphemeExtend
  | "grlink" | "graphemelink" => some graphemeLink
  | "idc" | "idcontinue" => some idContinue
  | "idcompatmathcontinue" => some idCompatMathContinue
  | "idcompatmathstart" => some idCompatMathStart
  | "ids" | "idstart" => some idStart
  | "ogrext" | "othergraphemeextend" => some otherGraphemeExtend
  | "oidc" | "otheridcontinue" => some otherIdContinue
  | "oids" | "otheridstart" => some otherIdStart
  | "patsyn" | "patternsyntax" => some patternSyntax
  | "patws" | "patternwhitespace" => some patternWhiteSpace
  | "xidc" | "xidcontinue" => some xidContinue
  | "xids" | "xidstart" => some xidStart
  | _ => none

/-! ## Properties with other values -/

/-- categories by normal name, and three sets that are no categories -/
def categoryNamed? (name : String) : Option CharSet :=
  match name with
  | "any" => some .all
  | "assigned" => some (category "Cn").compl
  | "ascii" => some (.range 0 0x7F)
  | name => (categoryCode? name).map category

/-- names of the classes at the edges of graphemes, with their short names -/
def graphemeBreakNames : List (String × String) :=
  [("control", "cn"), ("extend", "ex"), ("prepend", "pp"), ("regionalindicator", "ri"), ("spacingmark", "sm")]

/-- names of the classes at the edges of words, with their short names -/
def wordBreakNames : List (String × String) :=
  [("aletter", "le"), ("doublequote", "dq"), ("extendnumlet", "ex"), ("format", "fo"), ("hebrewletter", "hl"),
   ("katakana", "ka"), ("midletter", "ml"), ("midnum", "mn"), ("midnumlet", "mb"), ("newline", "nl"),
   ("numeric", "nu"), ("regionalindicator", "ri"), ("singlequote", "sq")]

/-- names of the classes at the edges of sentences, with their short names -/
def sentenceBreakNames : List (String × String) :=
  [("aterm", "at"), ("close", "cl"), ("extend", "ex"), ("format", "fo"), ("lower", "lo"), ("numeric", "nu"),
   ("oletter", "le"), ("scontinue", "sc"), ("sep", "se"), ("sterm", "st"), ("upper", "up")]

/-- a class by its short or its long name -/
def classNamed? (classes : List (String × CharSet)) (names : List (String × String)) (name : String) :
    Option CharSet :=
  classes.lookup ((names.lookup name).getD name)

/-! ## Properties by name -/

/-- a property named alone; a name for several properties means the first of those with a value of yes or no, a
category and a script -/
def property? (name : String) : Option CharSet :=
  let name := normalName name
  letterProperty? name <|> symbolProperty? name <|> emojiProperty? name <|> roleProperty? name <|>
    categoryNamed? name <|> (scriptCode? name).map script

/-- a property named together with its value -/
def propertyWithValue? (name value : String) : Option CharSet :=
  let value := normalName value
  match normalName name with
  | "gc" | "generalcategory" => categoryNamed? value
  | "sc" | "script" => (scriptCode? value).map script
  | "scx" | "scriptextensions" => (scriptCode? value).map scriptExtension
  | "age" => (versionNamed? value).map ofVersion
  | "gcb" | "graphemeclusterbreak" => classNamed? graphemeBreaks graphemeBreakNames value
  | "wb" | "wordbreak" => classNamed? wordBreaks wordBreakNames value
  | "sb" | "sentencebreak" => classNamed? sentenceBreaks sentenceBreakNames value
  | _ => none

/-! ## Classes of characters -/

def isAlphabetic (c : Char) : Bool := alphabetic.contains c

def isAlphanumeric (c : Char) : Bool := alphanumeric.contains c

end DocumentQuery.Unicode
