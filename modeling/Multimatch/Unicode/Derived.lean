import Multimatch.Unicode.GeneralCategory
import Multimatch.Unicode.Property
import Multimatch.Unicode.CaseChange
import Multimatch.Unicode.Break.Word

/-!
Properties the standard defines from others (Unicode 16): letter case, identifiers, grapheme
extension, and the class of word characters.
-/

namespace Multimatch.Unicode

def unionOf (sets : List IntervalSet) : IntervalSet :=
  IntervalSet.ofList (sets.flatMap IntervalSet.intervals)

def lowercase : IntervalSet := (ofCategories ["ll"]).union otherLowercase

def uppercase : IntervalSet := (ofCategories ["lu"]).union otherUppercase

/-- Property Cased: a letter that has a case, or is in title case. -/
def cased : IntervalSet := unionOf [lowercase, uppercase, ofCategories ["lt"]]

def alphabetic : IntervalSet :=
  unionOf [lowercase, uppercase, ofCategories ["lt", "lm", "lo", "nl"], otherAlphabetic]

def math : IntervalSet := (ofCategories ["sm"]).union otherMath

/-- Property Changes When Casemapped: some change of case alters it. -/
def changesWhenCasemapped : IntervalSet :=
  unionOf [changesWhenLowercased, changesWhenUppercased, changesWhenTitlecased]

/-- Property Case Ignorable: marks, modifiers, format controls and mid-word punctuation. -/
def caseIgnorable : IntervalSet :=
  unionOf [ofCategories ["mn", "me", "cf", "lm", "sk"],
    (wordBreak? "ml").getD .empty, (wordBreak? "mb").getD .empty, (wordBreak? "sq").getD .empty]

/-- What identifiers never hold: characters reserved for patterns. -/
def patternReserved : IntervalSet := patternSyntax.union patternWhiteSpace

def idStart : IntervalSet :=
  (unionOf [letters, ofCategories ["nl"], otherIdStart]).difference patternReserved

def idContinue : IntervalSet :=
  (unionOf [idStart, ofCategories ["mn", "mc", "nd", "pc"], otherIdContinue]).difference
    patternReserved

/-- The values that compatibility normalisation would turn into no part of an identifier. -/
def unstableIdContinue : IntervalSet := IntervalSet.read
  "37a 309b-309c fc5e-fc63 fdfa-fdfb fe70 fe72 fe74 fe76 fe78 fe7a fe7c fe7e"

/-- The values that compatibility normalisation would turn into no start of an identifier. -/
def unstableIdStart : IntervalSet :=
  unstableIdContinue.union (IntervalSet.read "e33 eb3 ff9e-ff9f")

/-- Property XID Start: starts of identifiers that normalisation keeps. -/
def xidStart : IntervalSet := idStart.difference unstableIdStart

/-- Property XID Continue: parts of identifiers that normalisation keeps. -/
def xidContinue : IntervalSet := idContinue.difference unstableIdContinue

/-- Property Grapheme Extend: marks that combine with the character before them. -/
def graphemeExtend : IntervalSet := (ofCategories ["me", "mn"]).union otherGraphemeExtend

/-- Property Grapheme Base: everything visible that is no extension of another character. -/
def graphemeBase : IntervalSet :=
  (unionOf [ofCategories ["cc", "cf", "co", "cn", "zl", "zp"], ⟨[surrogates]⟩,
    graphemeExtend]).complement

def defaultIgnorableCodePoint : IntervalSet :=
  (unionOf [otherDefaultIgnorableCodePoint, ofCategories ["cf"], variationSelector]).difference
    (unionOf [whiteSpace, IntervalSet.read "fff9-fffb 13430-1343f", prependedConcatenationMark])

/-- The characters words are made of: letters, marks, decimal digits and connectors. -/
def wordCharacters : IntervalSet :=
  unionOf [alphabetic, marks, ofCategories ["nd", "pc"], joinControl]

/-- The decimal digits of all scripts. -/
def decimalDigits : IntervalSet := ofCategories ["nd"]

/-- Letters, and numbers of every kind. -/
def alphanumeric : IntervalSet := alphabetic.union (ofCategories ["nd", "nl", "no"])

/--
The characters that show when they are printed: all but controls, separators other than the space,
and values without an assigned character.
-/
def printable : IntervalSet :=
  (unionOf [ofCategories ["cc", "cf", "co", "cn", "zl", "zp"], ⟨[surrogates]⟩,
    (ofCategories ["zs"]).difference (.singleton 0x20)]).complement

end Multimatch.Unicode
