import Multimatch.Unicode.Derived
import Multimatch.Unicode.Emoji
import Multimatch.Unicode.Script
import Multimatch.Unicode.ScriptExtension
import Multimatch.Unicode.Age
import Multimatch.Unicode.Break.Grapheme
import Multimatch.Unicode.Break.Sentence

/-!
Looking up sets of scalar values by the names of properties and of their values. Names are compared
loosely: blanks, underscores, hyphens, letter case and a leading `is` do not count.
-/

namespace Multimatch.Unicode

/--
The loose form of a name: a leading `is` goes, then blanks, underscores, hyphens and everything
outside ASCII, and capitals become small. The name `isc` stays as it is, since it is a name of its
own and not that of the category `c`.
-/
def looseName (name : List Char) : String :=
  let loose (cs : List Char) : List Char :=
    (cs.filter fun c => c.toNat ≤ 0x7F && c != ' ' && c != '_' && c != '-').map Char.toLower
  match name with
  | i :: s :: rest =>
    if i.toLower = 'i' && s.toLower = 's' then
      if loose rest = ['c'] then "isc" else String.ofList (loose rest)
    else String.ofList (loose name)
  | _ => String.ofList (loose name)

def binaryProperties : List (Names × IntervalSet) :=
  [
    (⟨"ahex", ["asciihexdigit"]⟩, asciiHexDigit),
    (⟨"alpha", ["alphabetic"]⟩, alphabetic),
    (⟨"bidic", ["bidicontrol"]⟩, bidiControl),
    (⟨"bidim", ["bidimirrored"]⟩, bidiMirrored),
    (⟨"ci", ["caseignorable"]⟩, caseIgnorable),
    (⟨"cased", []⟩, cased),
    (⟨"cwcf", ["changeswhencasefolded"]⟩, changesWhenCasefolded),
    (⟨"cwcm", ["changeswhencasemapped"]⟩, changesWhenCasemapped),
    (⟨"cwl", ["changeswhenlowercased"]⟩, changesWhenLowercased),
    (⟨"cwt", ["changeswhentitlecased"]⟩, changesWhenTitlecased),
    (⟨"cwu", ["changeswhenuppercased"]⟩, changesWhenUppercased),
    (⟨"dash", []⟩, dash),
    (⟨"di", ["defaultignorablecodepoint"]⟩, defaultIgnorableCodePoint),
    (⟨"dep", ["deprecated"]⟩, deprecated),
    (⟨"dia", ["diacritic"]⟩, diacritic),
    (⟨"emoji", []⟩, emoji),
    (⟨"ecomp", ["emojicomponent"]⟩, emojiComponent),
    (⟨"emod", ["emojimodifier"]⟩, emojiModifier),
    (⟨"ebase", ["emojimodifierbase"]⟩, emojiModifierBase),
    (⟨"epres", ["emojipresentation"]⟩, emojiPresentation),
    (⟨"extpict", ["extendedpictographic"]⟩, extendedPictographic),
    (⟨"ext", ["extender"]⟩, extender),
    (⟨"grbase", ["graphemebase"]⟩, graphemeBase),
    (⟨"grext", ["graphemeextend"]⟩, graphemeExtend),
    (⟨"grlink", ["graphemelink"]⟩, graphemeLink),
    (⟨"hex", ["hexdigit"]⟩, hexDigit),
    (⟨"hyphen", []⟩, hyphen),
    (⟨"idsb", ["idsbinaryoperator"]⟩, idsBinaryOperator),
    (⟨"idst", ["idstrinaryoperator"]⟩, idsTrinaryOperator),
    (⟨"idsu", ["idsunaryoperator"]⟩, idsUnaryOperator),
    (⟨"idcompatmathcontinue", []⟩, idCompatMathContinue),
    (⟨"idcompatmathstart", []⟩, idCompatMathStart),
    (⟨"idc", ["idcontinue"]⟩, idContinue),
    (⟨"ids", ["idstart"]⟩, idStart),
    (⟨"ideo", ["ideographic"]⟩, ideographic),
    (⟨"joinc", ["joincontrol"]⟩, joinControl),
    (⟨"loe", ["logicalorderexception"]⟩, logicalOrderException),
    (⟨"lower", ["lowercase"]⟩, lowercase),
    (⟨"math", []⟩, math),
    (⟨"mcm", ["modifiercombiningmark"]⟩, modifierCombiningMark),
    (⟨"nchar", ["noncharactercodepoint"]⟩, noncharacterCodePoint),
    (⟨"oalpha", ["otheralphabetic"]⟩, otherAlphabetic),
    (⟨"odi", ["otherdefaultignorablecodepoint"]⟩, otherDefaultIgnorableCodePoint),
    (⟨"ogrext", ["othergraphemeextend"]⟩, otherGraphemeExtend),
    (⟨"oidc", ["otheridcontinue"]⟩, otherIdContinue),
    (⟨"oids", ["otheridstart"]⟩, otherIdStart),
    (⟨"olower", ["otherlowercase"]⟩, otherLowercase),
    (⟨"omath", ["othermath"]⟩, otherMath),
    (⟨"oupper", ["otheruppercase"]⟩, otherUppercase),
    (⟨"patsyn", ["patternsyntax"]⟩, patternSyntax),
    (⟨"patws", ["patternwhitespace"]⟩, patternWhiteSpace),
    (⟨"pcm", ["prependedconcatenationmark"]⟩, prependedConcatenationMark),
    (⟨"qmark", ["quotationmark"]⟩, quotationMark),
    (⟨"radical", []⟩, radical),
    (⟨"ri", ["regionalindicator"]⟩, regionalIndicator),
    (⟨"sterm", ["sentenceterminal"]⟩, sentenceTerminal),
    (⟨"sd", ["softdotted"]⟩, softDotted),
    (⟨"term", ["terminalpunctuation"]⟩, terminalPunctuation),
    (⟨"uideo", ["unifiedideograph"]⟩, unifiedIdeograph),
    (⟨"upper", ["uppercase"]⟩, uppercase),
    (⟨"vs", ["variationselector"]⟩, variationSelector),
    (⟨"space", ["wspace", "whitespace"]⟩, whiteSpace),
    (⟨"xidc", ["xidcontinue"]⟩, xidContinue),
    (⟨"xids", ["xidstart"]⟩, xidStart)]

inductive ValuedProperty
  | generalCategory
  | script
  | scriptExtension
  | age
  | graphemeBreak
  | wordBreak
  | sentenceBreak

def ValuedProperty.ofName? : String → Option ValuedProperty
  | "gc" | "generalcategory" => some .generalCategory
  | "sc" | "script" => some .script
  | "scx" | "scriptextensions" => some .scriptExtension
  | "age" => some .age
  | "gcb" | "graphemeclusterbreak" => some .graphemeBreak
  | "wb" | "wordbreak" => some .wordBreak
  | "sb" | "sentencebreak" => some .sentenceBreak
  | _ => none

def anyScalar : IntervalSet := ⟨[⟨0, 0x10FFFF⟩]⟩

/-- A general category or one of the sets that are named like one, by its loose name. -/
def categoryNamed? : String → Option IntervalSet
  | "any" => some anyScalar
  | "assigned" => (category? "cn").map (·.complement)
  | "ascii" => some ⟨[⟨0, 0x7F⟩]⟩
  | name => (Names.code? generalCategoryNames name).bind category?

/-- The values for which a property has a value, by the loose name of the value. -/
def ValuedProperty.valueNamed? (value : String) : ValuedProperty → Option IntervalSet
  | .generalCategory => categoryNamed? value
  | .script => (Names.code? scriptNames value).bind script?
  | .scriptExtension => (Names.code? scriptNames value).bind scriptExtension?
  | .age => (Names.code? ageNames value).bind age?
  | .graphemeBreak => (Names.code? graphemeBreakNames value).bind graphemeBreak?
  | .wordBreak => (Names.code? wordBreakNames value).bind wordBreak?
  | .sentenceBreak => (Names.code? sentenceBreakNames value).bind sentenceBreak?

/--
The set a single name stands for: a yes-or-no property, else a general category, else a script.
-/
def named? (name : List Char) : Option IntervalSet :=
  let loose := looseName name
  ((binaryProperties.find? (·.1.has loose)).map Prod.snd)
    <|> categoryNamed? loose
    <|> ValuedProperty.script.valueNamed? loose

/-- The set that a property's name and the name of a value stand for. -/
def valued? (property value : List Char) : Option IntervalSet :=
  (ValuedProperty.ofName? (looseName property)).bind (·.valueNamed? (looseName value))

end Multimatch.Unicode
