import SchemaCheck.Unicode.Property
import SchemaCheck.Unicode.Script

/-!
Names of sets of characters: general categories, scripts and binary properties, by their short and
long names. Case, blanks, dashes, underscores and a leading `is` do not matter in a name.
-/

namespace SchemaCheck.Unicode

/-- The part of a name that matters. -/
def looseName (name : List Char) : List Char :=
  let tail :=
    match name with
    | i :: s :: rest => if i.toLower == 'i' && s.toLower == 's' then rest else name
    | _ => name
  let counts (c : Char) : Bool := c.toNat < 128 && c != ' ' && c != '_' && c != '-'
  let kept := Text.asciiLower (tail.filter counts)
  if tail.length < name.length && kept == ['c'] then "isc".toList else kept

structure NamedSet where
  names : List String
  set : CharSet

def findLoose? (name : List Char) (table : List NamedSet) : Option CharSet :=
  (table.find? fun entry => entry.names.any fun other => looseName other.toList == name).map
    NamedSet.set

open Property Category PropertyTable CharSet

def categoryNames : List NamedSet :=
  [⟨["any"], all⟩, ⟨["assigned"], assigned⟩, ⟨["ascii"], range 0 0x7F⟩,
    ⟨["L", "Letter"], letter⟩, ⟨["LC", "Cased_Letter"], casedLetter⟩,
    ⟨["Lu", "Uppercase_Letter"], uppercaseLetter⟩, ⟨["Ll", "Lowercase_Letter"], lowercaseLetter⟩,
    ⟨["Lt", "Titlecase_Letter"], titlecaseLetter⟩, ⟨["Lm", "Modifier_Letter"], modifierLetter⟩,
    ⟨["Lo", "Other_Letter"], otherLetter⟩, ⟨["M", "Mark", "Combining_Mark"], mark⟩,
    ⟨["Mn", "Nonspacing_Mark"], nonspacingMark⟩, ⟨["Mc", "Spacing_Mark"], spacingMark⟩,
    ⟨["Me", "Enclosing_Mark"], enclosingMark⟩, ⟨["N", "Number"], number⟩,
    ⟨["Nd", "Decimal_Number", "digit"], decimalNumber⟩, ⟨["Nl", "Letter_Number"], letterNumber⟩,
    ⟨["No", "Other_Number"], otherNumber⟩, ⟨["P", "Punctuation", "punct"], punctuation⟩,
    ⟨["Pc", "Connector_Punctuation"], connectorPunctuation⟩,
    ⟨["Pd", "Dash_Punctuation"], dashPunctuation⟩, ⟨["Ps", "Open_Punctuation"], openPunctuation⟩,
    ⟨["Pe", "Close_Punctuation"], closePunctuation⟩,
    ⟨["Pi", "Initial_Punctuation"], initialPunctuation⟩,
    ⟨["Pf", "Final_Punctuation"], finalPunctuation⟩,
    ⟨["Po", "Other_Punctuation"], otherPunctuation⟩, ⟨["S", "Symbol"], symbol⟩,
    ⟨["Sm", "Math_Symbol"], mathSymbol⟩, ⟨["Sc", "Currency_Symbol"], currencySymbol⟩,
    ⟨["Sk", "Modifier_Symbol"], modifierSymbol⟩, ⟨["So", "Other_Symbol"], otherSymbol⟩,
    ⟨["Z", "Separator"], separator⟩, ⟨["Zs", "Space_Separator"], spaceSeparator⟩,
    ⟨["Zl", "Line_Separator"], lineSeparator⟩, ⟨["Zp", "Paragraph_Separator"], paragraphSeparator⟩,
    ⟨["C", "Other"], other⟩, ⟨["Cc", "Control", "cntrl"], control⟩, ⟨["Cf", "Format"], format⟩,
    ⟨["Co", "Private_Use"], privateUse⟩, ⟨["Cn", "Unassigned"], unassigned⟩]

def propertyNames : List NamedSet :=
  [⟨["AHex", "ASCII_Hex_Digit"], asciiHexDigit⟩, ⟨["Alpha", "Alphabetic"], alphabetic⟩,
    ⟨["Bidi_C", "Bidi_Control"], bidiControl⟩, ⟨["Bidi_M", "Bidi_Mirrored"], bidiMirrored⟩,
    ⟨["CI", "Case_Ignorable"], caseIgnorable⟩, ⟨["Cased"], cased⟩,
    ⟨["CWCF", "Changes_When_Casefolded"], changesWhenCasefolded⟩,
    ⟨["CWCM", "Changes_When_Casemapped"], changesWhenCasemapped⟩,
    ⟨["CWL", "Changes_When_Lowercased"], changesWhenLowercased⟩,
    ⟨["CWT", "Changes_When_Titlecased"], changesWhenTitlecased⟩,
    ⟨["CWU", "Changes_When_Uppercased"], changesWhenUppercased⟩, ⟨["Dash"], dash⟩,
    ⟨["DI", "Default_Ignorable_Code_Point"], defaultIgnorable⟩, ⟨["Dep", "Deprecated"], deprecated⟩,
    ⟨["Dia", "Diacritic"], diacritic⟩, ⟨["Emoji"], emoji⟩,
    ⟨["EComp", "Emoji_Component"], emojiComponent⟩, ⟨["EMod", "Emoji_Modifier"], emojiModifier⟩,
    ⟨["EBase", "Emoji_Modifier_Base"], emojiModifierBase⟩,
    ⟨["EPres", "Emoji_Presentation"], emojiPresentation⟩,
    ⟨["ExtPict", "Extended_Pictographic"], extendedPictographic⟩, ⟨["Ext", "Extender"], extender⟩,
    ⟨["Gr_Base", "Grapheme_Base"], graphemeBase⟩, ⟨["Gr_Ext", "Grapheme_Extend"], graphemeExtend⟩,
    ⟨["Hex", "Hex_Digit"], hexDigits⟩, ⟨["IDSB", "IDS_Binary_Operator"], idsBinaryOperator⟩,
    ⟨["IDST", "IDS_Trinary_Operator"], idsTrinaryOperator⟩, ⟨["IDC", "ID_Continue"], idContinue⟩,
    ⟨["IDS", "ID_Start"], idStart⟩, ⟨["Ideo", "Ideographic"], ideographic⟩,
    ⟨["Join_C", "Join_Control"], joinControl⟩,
    ⟨["LOE", "Logical_Order_Exception"], logicalOrderException⟩,
    ⟨["Lower", "Lowercase"], lowercase⟩,
    ⟨["Math"], math⟩, ⟨["NChar", "Noncharacter_Code_Point"], noncharacter⟩,
    ⟨["OAlpha", "Other_Alphabetic"], otherAlphabetic⟩,
    ⟨["OGr_Ext", "Other_Grapheme_Extend"], otherGraphemeExtend⟩,
    ⟨["OIDC", "Other_ID_Continue"], otherIdContinue⟩, ⟨["OIDS", "Other_ID_Start"], otherIdStart⟩,
    ⟨["OLower", "Other_Lowercase"], otherLowercase⟩, ⟨["OMath", "Other_Math"], otherMath⟩,
    ⟨["OUpper", "Other_Uppercase"], otherUppercase⟩, ⟨["Pat_Syn", "Pattern_Syntax"], patternSyntax⟩,
    ⟨["Pat_WS", "Pattern_White_Space"], patternWhiteSpace⟩,
    ⟨["QMark", "Quotation_Mark"], quotationMark⟩, ⟨["Radical"], radical⟩,
    ⟨["RI", "Regional_Indicator"], regionalIndicator⟩,
    ⟨["STerm", "Sentence_Terminal"], sentenceTerminal⟩, ⟨["SD", "Soft_Dotted"], softDotted⟩,
    ⟨["Term", "Terminal_Punctuation"], terminalPunctuation⟩,
    ⟨["UIdeo", "Unified_Ideograph"], unifiedIdeograph⟩, ⟨["Upper", "Uppercase"], uppercase⟩,
    ⟨["VS", "Variation_Selector"], variationSelector⟩,
    ⟨["WSpace", "White_Space", "space"], whiteSpace⟩, ⟨["XIDC", "XID_Continue"], xidContinue⟩,
    ⟨["XIDS", "XID_Start"], xidStart⟩]

def scriptAliases : List (String × String) := [("qaac", "copt"), ("qaai", "zinh")]

def script? (name : List Char) : Option Script :=
  let name := ((scriptAliases.lookup (String.ofList name)).map String.toList).getD name
  Script.all.find? fun script =>
    looseName script.code.toList == name || looseName script.name.toList == name

def Script.used (script : Script) : CharSet :=
  diff (union script.own script.shared) script.lent

/-- The set with a name that stands alone: a binary property, a general category, or a script. -/
def namedSet? (name : List Char) : Option CharSet :=
  let name := looseName name
  let property :=
    if ["cf", "sc", "lc"].contains (String.ofList name) then none
    else findLoose? name propertyNames
  property <|> findLoose? name categoryNames <|> (script? name).map fun script => .ranges script.own

/-- The set with a value of a property that has several. -/
def valuedSet? (property value : List Char) : Option CharSet :=
  let value := looseName value
  match String.ofList (looseName property) with
  | "gc" | "generalcategory" => findLoose? value categoryNames
  | "sc" | "script" => (script? value).map fun script => .ranges script.own
  | "scx" | "scriptextensions" => (script? value).map Script.used
  | _ => none

end SchemaCheck.Unicode
