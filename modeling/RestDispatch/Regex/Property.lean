import RestDispatch.Regex.CharClass
import RestDispatch.Text.Age
import RestDispatch.Text.DerivedProperty
import RestDispatch.Text.Script

/-!
# Classes by property

A class may be named by a property of its characters: a property that holds or fails, such
as `Alphabetic`, a general category, a script, or a property with one of its values, such as
`Script=Greek`.  Case, spaces, hyphens, low lines and a leading `is` make no difference to a
name.
-/

namespace RestDispatch.CharClass

/-- The general categories and their groups, by their plain names. -/
def categoryNames : List (List String × List String) := [
  (["l", "letter"], ["Lu", "Ll", "Lt", "Lm", "Lo"]),
  (["lc", "casedletter"], ["Lu", "Ll", "Lt"]),
  (["lu", "uppercaseletter"], ["Lu"]),
  (["ll", "lowercaseletter"], ["Ll"]),
  (["lt", "titlecaseletter"], ["Lt"]),
  (["lm", "modifierletter"], ["Lm"]),
  (["lo", "otherletter"], ["Lo"]),
  (["m", "mark", "combiningmark"], ["Mn", "Mc", "Me"]),
  (["mn", "nonspacingmark"], ["Mn"]),
  (["mc", "spacingmark"], ["Mc"]),
  (["me", "enclosingmark"], ["Me"]),
  (["n", "number"], ["Nd", "Nl", "No"]),
  (["nd", "decimalnumber", "digit"], ["Nd"]),
  (["nl", "letternumber"], ["Nl"]),
  (["no", "othernumber"], ["No"]),
  (["p", "punctuation", "punct"], ["Pc", "Pd", "Ps", "Pe", "Pi", "Pf", "Po"]),
  (["pc", "connectorpunctuation"], ["Pc"]),
  (["pd", "dashpunctuation"], ["Pd"]),
  (["ps", "openpunctuation"], ["Ps"]),
  (["pe", "closepunctuation"], ["Pe"]),
  (["pi", "initialpunctuation"], ["Pi"]),
  (["pf", "finalpunctuation"], ["Pf"]),
  (["po", "otherpunctuation"], ["Po"]),
  (["s", "symbol"], ["Sm", "Sc", "Sk", "So"]),
  (["sm", "mathsymbol"], ["Sm"]),
  (["sc", "currencysymbol"], ["Sc"]),
  (["sk", "modifiersymbol"], ["Sk"]),
  (["so", "othersymbol"], ["So"]),
  (["z", "separator"], ["Zs", "Zl", "Zp"]),
  (["zs", "spaceseparator"], ["Zs"]),
  (["zl", "lineseparator"], ["Zl"]),
  (["zp", "paragraphseparator"], ["Zp"]),
  (["c", "other"], ["Cc", "Cf", "Cs", "Co", "Cn"]),
  (["cc", "control", "cntrl"], ["Cc"]),
  (["cf", "format"], ["Cf"]),
  (["co", "privateuse"], ["Co"]),
  (["cn", "unassigned"], ["Cn"])]

/-- The properties that hold or fail, by their plain names. -/
def propertyNames : List (List String × Text.CharRanges) := [
  (["asciihexdigit", "ahex"], .asciiHexDigit),
  (["alphabetic", "alpha"], .alphabetic),
  (["bidicontrol", "bidic"], .bidiControl),
  (["bidimirrored", "bidim"], .bidiMirrored),
  (["caseignorable", "ci"], .caseIgnorable),
  (["cased"], .cased),
  (["changeswhencasefolded", "cwcf"], .changesWhenCasefolded),
  (["changeswhencasemapped", "cwcm"], .changesWhenCasemapped),
  (["changeswhenlowercased", "cwl"], .changesWhenLowercased),
  (["changeswhentitlecased", "cwt"], .changesWhenTitlecased),
  (["changeswhenuppercased", "cwu"], .changesWhenUppercased),
  (["dash"], .dash),
  (["defaultignorablecodepoint", "di"], .defaultIgnorable),
  (["deprecated", "dep"], .deprecated),
  (["diacritic", "dia"], .diacritic),
  (["emoji"], .emoji),
  (["emojicomponent", "ecomp"], .emojiComponent),
  (["emojimodifier", "emod"], .emojiModifier),
  (["emojimodifierbase", "ebase"], .emojiModifierBase),
  (["emojipresentation", "epres"], .emojiPresentation),
  (["extendedpictographic", "extpict"], .extendedPictographic),
  (["extender", "ext"], .extender),
  (["graphemebase", "grbase"], .graphemeBase),
  (["graphemeextend", "grext"], .graphemeExtend),
  (["graphemelink", "grlink"], .graphemeLink),
  (["hexdigit", "hex"], .hexDigit),
  (["hyphen"], .hyphen),
  (["idsbinaryoperator", "idsb"], .idsBinaryOperator),
  (["idstrinaryoperator", "idst"], .idsTrinaryOperator),
  (["idsunaryoperator", "idsu"], .idsUnaryOperator),
  (["idcompatmathcontinue"], .idCompatMathContinue),
  (["idcompatmathstart"], .idCompatMathStart),
  (["idcontinue", "idc"], .idContinue),
  (["idstart", "ids"], .idStart),
  (["ideographic", "ideo"], .ideographic),
  (["joincontrol", "joinc"], .joinControl),
  (["logicalorderexception", "loe"], .logicalOrderException),
  (["lowercase", "lower"], .lowercase),
  (["math"], .math),
  (["modifiercombiningmark", "mcm"], .modifierCombiningMark),
  (["noncharactercodepoint", "nchar"], .noncharacterCodePoint),
  (["otheralphabetic", "oalpha"], .otherAlphabetic),
  (["otherdefaultignorablecodepoint", "odi"], .otherDefaultIgnorableCodePoint),
  (["othergraphemeextend", "ogrext"], .otherGraphemeExtend),
  (["otheridcontinue", "oidc"], .otherIdContinue),
  (["otheridstart", "oids"], .otherIdStart),
  (["otherlowercase", "olower"], .otherLowercase),
  (["othermath", "omath"], .otherMath),
  (["otheruppercase", "oupper"], .otherUppercase),
  (["patternsyntax", "patsyn"], .patternSyntax),
  (["patternwhitespace", "patws"], .patternWhiteSpace),
  (["prependedconcatenationmark", "pcm"], .prependedConcatenationMark),
  (["quotationmark", "qmark"], .quotationMark),
  (["radical"], .radical),
  (["regionalindicator", "ri"], .regionalIndicator),
  (["sentenceterminal", "sterm"], .sentenceTerminal),
  (["softdotted", "sd"], .softDotted),
  (["terminalpunctuation", "term"], .terminalPunctuation),
  (["unifiedideograph", "uideo"], .unifiedIdeograph),
  (["uppercase", "upper"], .uppercase),
  (["variationselector", "vs"], .variationSelector),
  (["whitespace", "space", "wspace"], .whiteSpace),
  (["xidcontinue", "xidc"], .xidContinue),
  (["xidstart", "xids"], .xidStart)]

def named? {α : Type} (entries : List (List String × α)) (name : String) : Option α :=
  (entries.find? (·.1.contains name)).map (·.2)

/-- A name without spaces, hyphens and low lines, in small letters, and without a leading
`is`; `isc` is a name of its own. -/
def plainName (name : List Char) : String :=
  let plain (cs : List Char) :=
    (cs.filter fun c => c.toNat < 0x80 && !(c == ' ' || c == '-' || c == '_')).map Char.toLower
  if (name.take 2).map Char.toLower == ['i', 's'] then
    let rest := plain (name.drop 2)
    if rest == ['c'] then "isc" else String.ofList rest
  else String.ofList (plain name)

def ofCategoryName? (name : String) : Option CharClass :=
  match name with
  | "any" => some .all
  | "ascii" => some ascii
  | "assigned" => some (Text.categories.where (· != "Cn"))
  | name => (named? categoryNames name).map Text.inCategories

def scriptCode? (name : String) : Option String :=
  if name == "qaai" then some "Zinh"
  else if name == "qaac" then some "Copt"
  else
    (Text.scriptNames.find? fun (code, long) =>
      plainName code.toList == name || plainName long.toList == name).map (·.1)

def ofScriptName? (name : String) : Option CharClass :=
  (scriptCode? name).map Text.ofScript

/-- The class of an edition and those before it, whose number may be written `6.1` or
`V6_1`. -/
def ofEditionName? (name : String) : Option CharClass :=
  let entry := Text.editions.find? fun (_, number) =>
    number == name || "v" ++ String.ofList (number.toList.filter (· != '.')) == name
  entry.bind fun (_, number) => Text.ofEdition? number

def ofValueName? (values : Text.ValueMap) (names : List (String × String)) (name : String) :
    Option CharClass :=
  (names.find? fun (mark, long) => Text.lower mark == name || long == name).map fun (mark, _) =>
    values.where (· == mark)

def ofPropertyName? (name : List Char) : Option CharClass :=
  let name := plainName name
  named? propertyNames name <|> ofCategoryName? name <|> ofScriptName? name

def ofPropertyValue? (property value : List Char) : Option CharClass :=
  let value := plainName value
  match plainName property with
  | "gc" | "generalcategory" => ofCategoryName? value
  | "sc" | "script" => ofScriptName? value
  | "scx" | "scriptextensions" =>
    (scriptCode? value).map Text.usedInScript
  | "age" => ofEditionName? value
  | "gcb" | "graphemeclusterbreak" => ofValueName? Text.pictureParts Text.picturePartNames value
  | "wb" | "wordbreak" => ofValueName? Text.wordParts Text.wordPartNames value
  | "sb" | "sentencebreak" => ofValueName? Text.sentenceParts Text.sentencePartNames value
  | _ => none

end RestDispatch.CharClass
