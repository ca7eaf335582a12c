import ExprEngine.Text.Age
import ExprEngine.Text.GraphemeBreak
import ExprEngine.Text.Identifier
import ExprEngine.Text.ScriptExtension
import ExprEngine.Text.SentenceBreak

/-!
# Character properties by name

The properties that a pattern may name: some stand alone, others are values of a family such as
the scripts or the ages. Case, blanks, hyphens, underscores and characters beyond ASCII do not
count in a name, nor does an `is` that begins it.
-/

namespace ExprEngine.Regex

open Text

/-- A name without what does not count. The `is` stays in front of a `c`, because the two
together are the name of something else. -/
def plainName (name : String) : String :=
  let plain (cs : List Char) : List Char :=
    (cs.filter fun c => c.toNat < 128 ∧ c ∉ [' ', '_', '-']).map Char.toLower
  match name.toList with
  | i :: s :: rest =>
    if i.toLower = 'i' ∧ s.toLower = 's' then
      if plain rest = ['c'] then "isc" else String.ofList (plain rest)
    else String.ofList (plain (i :: s :: rest))
  | cs => String.ofList (plain cs)

def underName (table : List (List String × CodePoints)) (name : String) : Option CodePoints :=
  (table.find? fun (names, _) => names.any fun n => plainName n == name).map Prod.snd

/-! ### General categories -/

def categoryNames : List (List String × List Category) :=
  [(["L", "Letter"], Category.letters),
   (["LC", "Cased_Letter"], [.lowercaseLetter, .titlecaseLetter, .uppercaseLetter]),
   (["Lu", "Uppercase_Letter"], [.uppercaseLetter]),
   (["Ll", "Lowercase_Letter"], [.lowercaseLetter]),
   (["Lt", "Titlecase_Letter"], [.titlecaseLetter]),
   (["Lm", "Modifier_Letter"], [.modifierLetter]),
   (["Lo", "Other_Letter"], [.otherLetter]),
   (["M", "Mark", "Combining_Mark"], Category.marks),
   (["Mn", "Nonspacing_Mark"], [.nonspacingMark]),
   (["Mc", "Spacing_Mark"], [.spacingMark]),
   (["Me", "Enclosing_Mark"], [.enclosingMark]),
   (["N", "Number"], Category.numbers),
   (["Nd", "Decimal_Number", "Digit"], [.decimalNumber]),
   (["Nl", "Letter_Number"], [.letterNumber]),
   (["No", "Other_Number"], [.otherNumber]),
   (["P", "Punctuation", "Punct"], Category.punctuation),
   (["Pc", "Connector_Punctuation"], [.connectorPunctuation]),
   (["Pd", "Dash_Punctuation"], [.dashPunctuation]),
   (["Ps", "Open_Punctuation"], [.openPunctuation]),
   (["Pe", "Close_Punctuation"], [.closePunctuation]),
   (["Pi", "Initial_Punctuation"], [.initialPunctuation]),
   (["Pf", "Final_Punctuation"], [.finalPunctuation]),
   (["Po", "Other_Punctuation"], [.otherPunctuation]),
   (["S", "Symbol"], Category.symbols),
   (["Sm", "Math_Symbol"], [.mathSymbol]),
   (["Sc", "Currency_Symbol"], [.currencySymbol]),
   (["Sk", "Modifier_Symbol"], [.modifierSymbol]),
   (["So", "Other_Symbol"], [.otherSymbol]),
   (["Z", "Separator"], Category.separators),
   (["Zs", "Space_Separator"], [.spaceSeparator]),
   (["Zl", "Line_Separator"], [.lineSeparator]),
   (["Zp", "Paragraph_Separator"], [.paragraphSeparator]),
   (["C", "Other"], Category.others),
   (["Cc", "Control", "cntrl"], [.control]),
   (["Cf", "Format"], [.format]),
   (["Cn", "Unassigned"], [.unassigned]),
   (["Co", "Private_Use"], [.privateUse])]

def categoryTable : List (List String × CodePoints) :=
  (["Any"], .all) :: (["ASCII"], .range 0 127) ::
    (["Assigned"], Category.unassigned.points.complement) ::
    categoryNames.map fun (names, ks) => (names, Category.pointsOf ks)

/-! ### Properties that stand alone -/

def propertyTable : List (List String × CodePoints) :=
  [(["AHex", "ASCII_Hex_Digit"], asciiHexDigits),
   (["Alpha", "Alphabetic"], alphabetic),
   (["Bidi_C", "Bidi_Control"], directionMarks),
   (["Bidi_M", "Bidi_Mirrored"], mirrored),
   (["Cased"], cased),
   (["CI", "Case_Ignorable"], caseIgnorable),
   (["CWCF", "Changes_When_Casefolded"], changedByFolding),
   (["CWCM", "Changes_When_Casemapped"], changedByCase),
   (["CWL", "Changes_When_Lowercased"], changedByLowercase),
   (["CWT", "Changes_When_Titlecased"], changedByTitlecase),
   (["CWU", "Changes_When_Uppercased"], changedByUppercase),
   (["Dash"], dashes),
   (["DI", "Default_Ignorable_Code_Point"], ignorable),
   (["Dep", "Deprecated"], discouraged),
   (["Dia", "Diacritic"], diacritics),
   (["Emoji"], emoji),
   (["EBase", "Emoji_Modifier_Base"], emojiBases),
   (["EComp", "Emoji_Component"], emojiParts),
   (["EMod", "Emoji_Modifier"], emojiModifiers),
   (["EPres", "Emoji_Presentation"], emojiShown),
   (["Ext", "Extender"], prolongers),
   (["ExtPict", "Extended_Pictographic"], pictures),
   (["Gr_Base", "Grapheme_Base"], graphemeBases),
   (["Gr_Ext", "Grapheme_Extend"], extenders),
   (["Gr_Link", "Grapheme_Link"], graphemeLinks),
   (["Hex", "Hex_Digit"], hexDigitSigns),
   (["Hyphen"], hyphens),
   (["IDC", "ID_Continue"], identifierContinue),
   (["ID_Compat_Math_Continue"], mathContinue),
   (["ID_Compat_Math_Start"], mathStart),
   (["Ideo", "Ideographic"], ideographs),
   (["IDS", "ID_Start"], identifierStart),
   (["IDSB", "IDS_Binary_Operator"], binaryDescriptions),
   (["IDST", "IDS_Trinary_Operator"], ternaryDescriptions),
   (["IDSU", "IDS_Unary_Operator"], unaryDescriptions),
   (["Join_C", "Join_Control"], joiners),
   (["LOE", "Logical_Order_Exception"], visualOrder),
   (["Lower", "Lowercase"], lowercase),
   (["Math"], mathSigns),
   (["MCM", "Modifier_Combining_Mark"], modifierMarks),
   (["NChar", "Noncharacter_Code_Point"], noncharacters),
   (["OAlpha", "Other_Alphabetic"], otherAlphabetic),
   (["ODI", "Other_Default_Ignorable_Code_Point"], otherIgnorable),
   (["OGr_Ext", "Other_Grapheme_Extend"], otherExtenders),
   (["OIDC", "Other_ID_Continue"], otherIdentifierContinue),
   (["OIDS", "Other_ID_Start"], otherIdentifierStart),
   (["OLower", "Other_Lowercase"], otherLowercase),
   (["OMath", "Other_Math"], otherMath),
   (["OUpper", "Other_Uppercase"], otherUppercase),
   (["Pat_Syn", "Pattern_Syntax"], reservedSyntax),
   (["Pat_WS", "Pattern_White_Space"], reservedBlanks),
   (["PCM", "Prepended_Concatenation_Mark"], prependedMarks),
   (["QMark", "Quotation_Mark"], quotationMarks),
   (["Radical"], radicals),
   (["RI", "Regional_Indicator"], regionalIndicators),
   (["SD", "Soft_Dotted"], softDotted),
   (["STerm", "Sentence_Terminal"], sentenceEnds),
   (["Term", "Terminal_Punctuation"], phraseEnds),
   (["UIdeo", "Unified_Ideograph"], unifiedIdeographs),
   (["Upper", "Uppercase"], uppercase),
   (["VS", "Variation_Selector"], variationSelectors),
   (["WSpace", "White_Space", "space"], blanks),
   (["XIDC", "XID_Continue"], stableContinue),
   (["XIDS", "XID_Start"], stableStart)]

/-! ### Families -/

def ageNames : List (List String × CodePoints) :=
  ageTable.map fun ((major, minor), s) =>
    ([toString major ++ "." ++ toString minor, "V" ++ toString major ++ "_" ++ toString minor], s)

def families : List (List String × List (List String × CodePoints)) :=
  [(["gc", "General_Category"], categoryTable),
   (["sc", "Script"], scriptTable),
   (["scx", "Script_Extensions"], scriptExtensionTable),
   (["age"], ageNames),
   (["GCB", "Grapheme_Cluster_Break"], GraphemeBreak.table),
   (["WB", "Word_Break"], WordBreak.table),
   (["SB", "Sentence_Break"], SentenceBreak.table)]

/-- The property with a name, of a family or of none. Categories and scripts need no family. -/
def property? (family : Option String) (value : String) : Option CodePoints :=
  let value := plainName value
  match family with
  | none =>
    (underName propertyTable value).or ((underName categoryTable value).or
      (underName scriptTable value))
  | some family =>
    (families.find? fun (names, _) => names.any fun n => plainName n == plainName family).bind
      fun (_, table) => underName table value

end ExprEngine.Regex
