import RestDispatch.Text.CaseFolding
import RestDispatch.Text.Category
import RestDispatch.Text.Property
import RestDispatch.Text.Segmentation

/-!
# Derived properties

Sets of characters that follow from the general categories and the listed properties: the
alphabetic, small and capital characters, those of words and identifiers, and those that a
change of case affects.
-/

namespace RestDispatch.Text.CharRanges

def decimalDigit : CharRanges := inCategories ["Nd"]

def uppercase : CharRanges := inCategories ["Lu"] ∪ otherUppercase

def lowercase : CharRanges := inCategories ["Ll"] ∪ otherLowercase

def cased : CharRanges := uppercase ∪ lowercase ∪ inCategories ["Lt"]

def alphabetic : CharRanges :=
  uppercase ∪ lowercase ∪ inCategories ["Lt", "Lm", "Lo", "Nl"] ∪ otherAlphabetic

/-- The characters of words: alphabetic ones, marks, digits, connectors and the joiners. -/
def wordChar : CharRanges :=
  alphabetic ∪ inCategories ["Mn", "Mc", "Me", "Nd", "Pc"] ∪ joinControl

/-- Characters that do not separate a cased character from its neighbours. -/
def caseIgnorable : CharRanges :=
  inCategories ["Mn", "Me", "Cf", "Lm", "Sk"] ∪ wordParts.where ["Ml", "Mb", "Sq"].contains

def math : CharRanges := inCategories ["Sm"] ∪ otherMath

def asciiHexDigit : CharRanges := .ofText "48 10 7 6 26 6"

/-- Hexadecimal digits of ordinary and of full width. -/
def hexDigit : CharRanges := asciiHexDigit ∪ .ofText "65296 10 7 6 26 6"

def graphemeExtend : CharRanges := inCategories ["Mn", "Me"] ∪ otherGraphemeExtend

/-- Characters with a picture of their own. -/
def graphemeBase : CharRanges :=
  (inCategories ["Cc", "Cf", "Cs", "Co", "Cn", "Zl", "Zp"] ∪ graphemeExtend).compl

/-- Code points that are not shown at all where they are not supported.  Interlinear and
hieroglyphic formats are shown. -/
def defaultIgnorable : CharRanges :=
  (otherDefaultIgnorableCodePoint ∪ inCategories ["Cf"] ∪ variationSelector) \
    (whiteSpace ∪ prependedConcatenationMark ∪ .interval 0xFFF9 0xFFFB ∪
      .interval 0x13430 0x1343F)

/-! Identifiers. -/

def idStart : CharRanges :=
  (inCategories ["Lu", "Ll", "Lt", "Lm", "Lo", "Nl"] ∪ otherIdStart) \
    (patternSyntax ∪ patternWhiteSpace)

def idContinue : CharRanges :=
  (idStart ∪ inCategories ["Mn", "Mc", "Nd", "Pc"] ∪ otherIdContinue) \
    (patternSyntax ∪ patternWhiteSpace)

/-- Characters whose compatible forms identifiers may not contain. -/
def unstableIdContinue : CharRanges :=
  .ofText "890 1 11552 2 52161 6 406 2 116 1 1 1 1 1 1 1 1 1 1 1 1 1 1 1"

/-- Identifiers stay identifiers when compatible forms replace characters. -/
def xidContinue : CharRanges := idContinue \ unstableIdContinue

def xidStart : CharRanges :=
  idStart \ (unstableIdContinue ∪ .ofText "3635 1 127 1 61674 2")

/-! Changes of case. -/

/-- Characters without capital form of their own that are written in capitals by several
characters. -/
def expandedInCapitals : CharRanges := .ofText
  "305 1 23 1 166 1 918 1 6414 5 181 1 1 1 1 1 1 1 91 1 1 1 1 2 10 1 1 1 1 2 10 1 3 2 10 1 1 1
    1 2 10 1 1 1 1 2 56072 5 14 5"

/-- Characters that small letters do not keep; the capital I with a dot is written by two. -/
def changesWhenLowercased : CharRanges :=
  (inCasePair ∩ (uppercase ∪ inCategories ["Lt"])) ∪ .interval 0x130 0x130

def changesWhenUppercased : CharRanges := (inCasePair \ uppercase) ∪ expandedInCapitals

/-- Characters that a capital at the start of a word does not keep: the letters that have
a form of their own there, and small letters other than those of Georgian. -/
def changesWhenTitlecased : CharRanges :=
  (changesWhenUppercased \
      (inCategories ["Lt"] ∪ .interval 0x10D0 0x10FA ∪ .interval 0x10FD 0x10FF)) ∪
    .ofMembers [0x1C4, 0x1C7, 0x1CA, 0x1F1]

def changesWhenCasemapped : CharRanges :=
  changesWhenLowercased ∪ changesWhenUppercased ∪ changesWhenTitlecased

/-- Characters that folding replaces, by several characters in some cases. -/
def changesWhenCasefolded : CharRanges :=
  (folded \ .ofMembers [0x1FBE, 0x1FD3, 0x1FE3]) ∪ .ofText
    "223 1 80 1 24 1 1085 1 6418 1 229 8 8 8 8 8 10 3 2 1 10 3 2 1 42 3 2 1 56072 5 1 1 12 5"

end RestDispatch.Text.CharRanges
