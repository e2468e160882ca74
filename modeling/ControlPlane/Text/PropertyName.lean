import ControlPlane.Text.Category
import ControlPlane.Text.Script
import ControlPlane.Text.BooleanProperty
import ControlPlane.Text.Age
import ControlPlane.Text.Segmentation

/-!
# Property names

A pattern asks for a class of characters by a property: `\pL` (one letter), `\p{Greek}` (a
name alone) or `\p{Script=Greek}` (a property and a value, also written with `:`, or with
`!=` for the code points without the value). Names are compared loosely: case, blanks,
underscores, hyphens and a leading `is` do not matter, so `\p{is greek}` is `\p{Greek}`.

A name alone is a boolean property if it names one, else a general category, else a script;
`cf`, `sc` and `lc` are read as categories although they also name properties. A property with
a value may be the general category, the script, the script extensions, the age or one of the
three break classes. A name that is no property at all is reported as an unknown property; a
known property without such a value, or one that cannot be asked for by value, as an unknown
value.
-/

namespace ControlPlane

namespace Text

/-- The loose form of a property name or value: its ASCII characters but blanks, underscores
and hyphens, in lower case, after dropping a leading `is` in any case. `isc` keeps its `is`,
since without it the name would be that of a category. -/
def looseName (s : String) : String :=
  let cs := s.toList
  let (stripped, rest) := match cs with
    | a :: b :: more =>
      if (a == 'i' || a == 'I') && (b == 's' || b == 'S') then (true, more) else (false, cs)
    | _ => (false, cs)
  let kept := rest.filterMap fun c =>
    if c == ' ' || c == '_' || c == '-' || c.toNat > 0x7F then none else some c.toLower
  if stripped && kept == ['c'] then "isc" else String.ofList kept

/-- Every character property by long name, with its other names. -/
def propertyNames : List (String × List String) := [
  ("ASCII_Hex_Digit", ["AHex"]), ("Age", ["age"]), ("Alphabetic", ["Alpha"]),
  ("Bidi_Class", ["bc"]), ("Bidi_Control", ["Bidi_C"]), ("Bidi_Mirrored", ["Bidi_M"]),
  ("Bidi_Mirroring_Glyph", ["bmg"]), ("Bidi_Paired_Bracket", ["bpb"]),
  ("Bidi_Paired_Bracket_Type", ["bpt"]), ("Block", ["blk"]),
  ("Canonical_Combining_Class", ["ccc"]), ("Case_Folding", ["cf"]), ("Case_Ignorable", ["CI"]),
  ("Cased", []), ("Changes_When_Casefolded", ["CWCF"]), ("Changes_When_Casemapped", ["CWCM"]),
  ("Changes_When_Lowercased", ["CWL"]), ("Changes_When_NFKC_Casefolded", ["CWKCF"]),
  ("Changes_When_Titlecased", ["CWT"]), ("Changes_When_Uppercased", ["CWU"]),
  ("Composition_Exclusion", ["CE"]), ("Dash", []), ("Decomposition_Mapping", ["dm"]),
  ("Decomposition_Type", ["dt"]), ("Default_Ignorable_Code_Point", ["DI"]),
  ("Deprecated", ["Dep"]), ("Diacritic", ["Dia"]), ("East_Asian_Width", ["ea"]), ("Emoji", []),
  ("Emoji_Component", ["EComp"]), ("Emoji_Modifier", ["EMod"]),
  ("Emoji_Modifier_Base", ["EBase"]), ("Emoji_Presentation", ["EPres"]),
  ("Equivalent_Unified_Ideograph", ["EqUIdeo"]), ("Expands_On_NFC", ["XO_NFC"]),
  ("Expands_On_NFD", ["XO_NFD"]), ("Expands_On_NFKC", ["XO_NFKC"]),
  ("Expands_On_NFKD", ["XO_NFKD"]), ("Extended_Pictographic", ["ExtPict"]),
  ("Extender", ["Ext"]), ("FC_NFKC_Closure", ["FC_NFKC"]),
  ("Full_Composition_Exclusion", ["Comp_Ex"]), ("General_Category", ["gc"]),
  ("Grapheme_Base", ["Gr_Base"]), ("Grapheme_Cluster_Break", ["GCB"]),
  ("Grapheme_Extend", ["Gr_Ext"]), ("Grapheme_Link", ["Gr_Link"]),
  ("Hangul_Syllable_Type", ["hst"]), ("Hex_Digit", ["Hex"]), ("Hyphen", []),
  ("IDS_Binary_Operator", ["IDSB"]), ("IDS_Trinary_Operator", ["IDST"]),
  ("ID_Continue", ["IDC"]), ("ID_Start", ["IDS"]), ("ISO_Comment", ["isc"]),
  ("Ideographic", ["Ideo"]), ("Indic_Positional_Category", ["InPC"]),
  ("Indic_Syllabic_Category", ["InSC"]), ("Jamo_Short_Name", ["JSN"]),
  ("Join_Control", ["Join_C"]), ("Joining_Group", ["jg"]), ("Joining_Type", ["jt"]),
  ("Line_Break", ["lb"]), ("Logical_Order_Exception", ["LOE"]), ("Lowercase", ["Lower"]),
  ("Lowercase_Mapping", ["lc"]), ("Math", []), ("NFC_Quick_Check", ["NFC_QC"]),
  ("NFD_Quick_Check", ["NFD_QC"]), ("NFKC_Casefold", ["NFKC_CF"]),
  ("NFKC_Quick_Check", ["NFKC_QC"]), ("NFKD_Quick_Check", ["NFKD_QC"]), ("Name", ["na"]),
  ("Name_Alias", []), ("Noncharacter_Code_Point", ["NChar"]), ("Numeric_Type", ["nt"]),
  ("Numeric_Value", ["nv"]), ("Other_Alphabetic", ["OAlpha"]),
  ("Other_Default_Ignorable_Code_Point", ["ODI"]), ("Other_Grapheme_Extend", ["OGr_Ext"]),
  ("Other_ID_Continue", ["OIDC"]), ("Other_ID_Start", ["OIDS"]),
  ("Other_Lowercase", ["OLower"]), ("Other_Math", ["OMath"]), ("Other_Uppercase", ["OUpper"]),
  ("Pattern_Syntax", ["Pat_Syn"]), ("Pattern_White_Space", ["Pat_WS"]),
  ("Prepended_Concatenation_Mark", ["PCM"]), ("Quotation_Mark", ["QMark"]), ("Radical", []),
  ("Regional_Indicator", ["RI"]), ("Script", ["sc"]), ("Script_Extensions", ["scx"]),
  ("Sentence_Break", ["SB"]), ("Sentence_Terminal", ["STerm"]),
  ("Simple_Case_Folding", ["scf", "sfc"]), ("Simple_Lowercase_Mapping", ["slc"]),
  ("Simple_Titlecase_Mapping", ["stc"]), ("Simple_Uppercase_Mapping", ["suc"]),
  ("Soft_Dotted", ["SD"]), ("Terminal_Punctuation", ["Term"]), ("Titlecase_Mapping", ["tc"]),
  ("Unicode_1_Name", ["na1"]), ("Unified_Ideograph", ["UIdeo"]), ("Uppercase", ["Upper"]),
  ("Uppercase_Mapping", ["uc"]), ("Variation_Selector", ["VS"]),
  ("Vertical_Orientation", ["vo"]), ("White_Space", ["WSpace", "space"]),
  ("Word_Break", ["WB"]), ("XID_Continue", ["XIDC"]), ("XID_Start", ["XIDS"]),
  ("kAccountingNumeric", ["cjkAccountingNumeric"]),
  ("kCompatibilityVariant", ["cjkCompatibilityVariant"]), ("kIICore", ["cjkIICore"]),
  ("kIRG_GSource", ["cjkIRG_GSource"]), ("kIRG_HSource", ["cjkIRG_HSource"]),
  ("kIRG_JSource", ["cjkIRG_JSource"]), ("kIRG_KPSource", ["cjkIRG_KPSource"]),
  ("kIRG_KSource", ["cjkIRG_KSource"]), ("kIRG_MSource", ["cjkIRG_MSource"]),
  ("kIRG_SSource", ["cjkIRG_SSource"]), ("kIRG_TSource", ["cjkIRG_TSource"]),
  ("kIRG_UKSource", ["cjkIRG_UKSource"]), ("kIRG_USource", ["cjkIRG_USource"]),
  ("kIRG_VSource", ["cjkIRG_VSource"]), ("kOtherNumeric", ["cjkOtherNumeric"]),
  ("kPrimaryNumeric", ["cjkPrimaryNumeric"]),
  ("kRSUnicode", ["cjkRSUnicode", "Unicode_Radical_Stroke", "URS"])]

/-- The general categories by long name, with their other names. -/
def categoryAliases : List (String × List String) := [
  ("Cased_Letter", ["LC"]), ("Close_Punctuation", ["Pe"]), ("Connector_Punctuation", ["Pc"]),
  ("Control", ["Cc", "Cntrl"]), ("Currency_Symbol", ["Sc"]), ("Dash_Punctuation", ["Pd"]),
  ("Decimal_Number", ["Nd", "Digit"]), ("Enclosing_Mark", ["Me"]), ("Final_Punctuation", ["Pf"]),
  ("Format", ["Cf"]), ("Initial_Punctuation", ["Pi"]), ("Letter", ["L"]),
  ("Letter_Number", ["Nl"]), ("Line_Separator", ["Zl"]), ("Lowercase_Letter", ["Ll"]),
  ("Mark", ["M", "Combining_Mark"]), ("Math_Symbol", ["Sm"]), ("Modifier_Letter", ["Lm"]),
  ("Modifier_Symbol", ["Sk"]), ("Nonspacing_Mark", ["Mn"]), ("Number", ["N"]),
  ("Open_Punctuation", ["Ps"]), ("Other", ["C"]), ("Other_Letter", ["Lo"]),
  ("Other_Number", ["No"]), ("Other_Punctuation", ["Po"]), ("Other_Symbol", ["So"]),
  ("Paragraph_Separator", ["Zp"]), ("Private_Use", ["Co"]), ("Punctuation", ["P", "Punct"]),
  ("Separator", ["Z"]), ("Space_Separator", ["Zs"]), ("Spacing_Mark", ["Mc"]),
  ("Surrogate", ["Cs"]), ("Symbol", ["S"]), ("Titlecase_Letter", ["Lt"]), ("Unassigned", ["Cn"]),
  ("Uppercase_Letter", ["Lu"])]

/-- The scripts by long name, with their other names. -/
def scriptAliases : List (String × List String) := [
  ("Adlam", ["Adlm"]), ("Ahom", []), ("Anatolian_Hieroglyphs", ["Hluw"]), ("Arabic", ["Arab"]),
  ("Armenian", ["Armn"]), ("Avestan", ["Avst"]), ("Balinese", ["Bali"]), ("Bamum", ["Bamu"]),
  ("Bassa_Vah", ["Bass"]), ("Batak", ["Batk"]), ("Bengali", ["Beng"]), ("Bhaiksuki", ["Bhks"]),
  ("Bopomofo", ["Bopo"]), ("Brahmi", ["Brah"]), ("Braille", ["Brai"]), ("Buginese", ["Bugi"]),
  ("Buhid", ["Buhd"]), ("Canadian_Aboriginal", ["Cans"]), ("Carian", ["Cari"]),
  ("Caucasian_Albanian", ["Aghb"]), ("Chakma", ["Cakm"]), ("Cham", []), ("Cherokee", ["Cher"]),
  ("Chorasmian", ["Chrs"]), ("Common", ["Zyyy"]), ("Coptic", ["Copt", "Qaac"]),
  ("Cuneiform", ["Xsux"]), ("Cypriot", ["Cprt"]), ("Cypro_Minoan", ["Cpmn"]),
  ("Cyrillic", ["Cyrl"]), ("Deseret", ["Dsrt"]), ("Devanagari", ["Deva"]),
  ("Dives_Akuru", ["Diak"]), ("Dogra", ["Dogr"]), ("Duployan", ["Dupl"]),
  ("Egyptian_Hieroglyphs", ["Egyp"]), ("Elbasan", ["Elba"]), ("Elymaic", ["Elym"]),
  ("Ethiopic", ["Ethi"]), ("Garay", ["Gara"]), ("Georgian", ["Geor"]), ("Glagolitic", ["Glag"]),
  ("Gothic", ["Goth"]), ("Grantha", ["Gran"]), ("Greek", ["Grek"]), ("Gujarati", ["Gujr"]),
  ("Gunjala_Gondi", ["Gong"]), ("Gurmukhi", ["Guru"]), ("Gurung_Khema", ["Gukh"]),
  ("Han", ["Hani"]), ("Hangul", ["Hang"]), ("Hanifi_Rohingya", ["Rohg"]), ("Hanunoo", ["Hano"]),
  ("Hatran", ["Hatr"]), ("Hebrew", ["Hebr"]), ("Hiragana", ["Hira"]),
  ("Imperial_Aramaic", ["Armi"]), ("Inherited", ["Zinh", "Qaai"]),
  ("Inscriptional_Pahlavi", ["Phli"]), ("Inscriptional_Parthian", ["Prti"]),
  ("Javanese", ["Java"]), ("Kaithi", ["Kthi"]), ("Kannada", ["Knda"]), ("Katakana", ["Kana"]),
  ("Katakana_Or_Hiragana", ["Hrkt"]), ("Kawi", []), ("Kayah_Li", ["Kali"]),
  ("Kharoshthi", ["Khar"]), ("Khitan_Small_Script", ["Kits"]), ("Khmer", ["Khmr"]),
  ("Khojki", ["Khoj"]), ("Khudawadi", ["Sind"]), ("Kirat_Rai", ["Krai"]), ("Lao", ["Laoo"]),
  ("Latin", ["Latn"]), ("Lepcha", ["Lepc"]), ("Limbu", ["Limb"]), ("Linear_A", ["Lina"]),
  ("Linear_B", ["Linb"]), ("Lisu", []), ("Lycian", ["Lyci"]), ("Lydian", ["Lydi"]),
  ("Mahajani", ["Mahj"]), ("Makasar", ["Maka"]), ("Malayalam", ["Mlym"]), ("Mandaic", ["Mand"]),
  ("Manichaean", ["Mani"]), ("Marchen", ["Marc"]), ("Masaram_Gondi", ["Gonm"]),
  ("Medefaidrin", ["Medf"]), ("Meetei_Mayek", ["Mtei"]), ("Mende_Kikakui", ["Mend"]),
  ("Meroitic_Cursive", ["Merc"]), ("Meroitic_Hieroglyphs", ["Mero"]), ("Miao", ["Plrd"]),
  ("Modi", []), ("Mongolian", ["Mong"]), ("Mro", ["Mroo"]), ("Multani", ["Mult"]),
  ("Myanmar", ["Mymr"]), ("Nabataean", ["Nbat"]), ("Nag_Mundari", ["Nagm"]),
  ("Nandinagari", ["Nand"]), ("New_Tai_Lue", ["Talu"]), ("Newa", []), ("Nko", ["Nkoo"]),
  ("Nushu", ["Nshu"]), ("Nyiakeng_Puachue_Hmong", ["Hmnp"]), ("Ogham", ["Ogam"]),
  ("Ol_Chiki", ["Olck"]), ("Ol_Onal", ["Onao"]), ("Old_Hungarian", ["Hung"]),
  ("Old_Italic", ["Ital"]), ("Old_North_Arabian", ["Narb"]), ("Old_Permic", ["Perm"]),
  ("Old_Persian", ["Xpeo"]), ("Old_Sogdian", ["Sogo"]), ("Old_South_Arabian", ["Sarb"]),
  ("Old_Turkic", ["Orkh"]), ("Old_Uyghur", ["Ougr"]), ("Oriya", ["Orya"]), ("Osage", ["Osge"]),
  ("Osmanya", ["Osma"]), ("Pahawh_Hmong", ["Hmng"]), ("Palmyrene", ["Palm"]),
  ("Pau_Cin_Hau", ["Pauc"]), ("Phags_Pa", ["Phag"]), ("Phoenician", ["Phnx"]),
  ("Psalter_Pahlavi", ["Phlp"]), ("Rejang", ["Rjng"]), ("Runic", ["Runr"]),
  ("Samaritan", ["Samr"]), ("Saurashtra", ["Saur"]), ("Sharada", ["Shrd"]), ("Shavian", ["Shaw"]),
  ("Siddham", ["Sidd"]), ("SignWriting", ["Sgnw"]), ("Sinhala", ["Sinh"]), ("Sogdian", ["Sogd"]),
  ("Sora_Sompeng", ["Sora"]), ("Soyombo", ["Soyo"]), ("Sundanese", ["Sund"]),
  ("Sunuwar", ["Sunu"]), ("Syloti_Nagri", ["Sylo"]), ("Syriac", ["Syrc"]), ("Tagalog", ["Tglg"]),
  ("Tagbanwa", ["Tagb"]), ("Tai_Le", ["Tale"]), ("Tai_Tham", ["Lana"]), ("Tai_Viet", ["Tavt"]),
  ("Takri", ["Takr"]), ("Tamil", ["Taml"]), ("Tangsa", ["Tnsa"]), ("Tangut", ["Tang"]),
  ("Telugu", ["Telu"]), ("Thaana", ["Thaa"]), ("Thai", []), ("Tibetan", ["Tibt"]),
  ("Tifinagh", ["Tfng"]), ("Tirhuta", ["Tirh"]), ("Todhri", ["Todr"]), ("Toto", []),
  ("Tulu_Tigalari", ["Tutg"]), ("Ugaritic", ["Ugar"]), ("Unknown", ["Zzzz"]), ("Vai", ["Vaii"]),
  ("Vithkuqi", ["Vith"]), ("Wancho", ["Wcho"]), ("Warang_Citi", ["Wara"]), ("Yezidi", ["Yezi"]),
  ("Yi", ["Yiii"]), ("Zanabazar_Square", ["Zanb"])]

/-- The versions by long name, with their other names. -/
def ageAliases : List (String × List String) := [
  ("Unassigned", ["NA"]), ("V10_0", ["10.0"]), ("V11_0", ["11.0"]), ("V12_0", ["12.0"]),
  ("V12_1", ["12.1"]), ("V13_0", ["13.0"]), ("V14_0", ["14.0"]), ("V15_0", ["15.0"]),
  ("V15_1", ["15.1"]), ("V16_0", ["16.0"]),
  ("V1_1", ["1.1"]), ("V2_0", ["2.0"]), ("V2_1", ["2.1"]), ("V3_0", ["3.0"]), ("V3_1", ["3.1"]),
  ("V3_2", ["3.2"]), ("V4_0", ["4.0"]), ("V4_1", ["4.1"]), ("V5_0", ["5.0"]), ("V5_1", ["5.1"]),
  ("V5_2", ["5.2"]), ("V6_0", ["6.0"]), ("V6_1", ["6.1"]), ("V6_2", ["6.2"]), ("V6_3", ["6.3"]),
  ("V7_0", ["7.0"]), ("V8_0", ["8.0"]), ("V9_0", ["9.0"])]

def graphemeClusterBreakAliases : List (String × List String) := [
  ("CR", []), ("Control", ["CN"]), ("E_Base", ["EB"]), ("E_Base_GAZ", ["EBG"]),
  ("E_Modifier", ["EM"]), ("Extend", ["EX"]), ("Glue_After_Zwj", ["GAZ"]), ("L", []), ("LF", []),
  ("LV", []), ("LVT", []), ("Other", ["XX"]), ("Prepend", ["PP"]), ("Regional_Indicator", ["RI"]),
  ("SpacingMark", ["SM"]), ("T", []), ("V", []), ("ZWJ", [])]

def sentenceBreakAliases : List (String × List String) := [
  ("ATerm", ["AT"]), ("CR", []), ("Close", ["CL"]), ("Extend", ["EX"]), ("Format", ["FO"]),
  ("LF", []), ("Lower", ["LO"]), ("Numeric", ["NU"]), ("OLetter", ["LE"]), ("Other", ["XX"]),
  ("SContinue", ["SC"]), ("STerm", ["ST"]), ("Sep", ["SE"]), ("Sp", ["SP"]), ("Upper", ["UP"])]

/-- The word break classes by long name, with their other names. -/
def wordBreakAliases : List (String × List String) := [
  ("ALetter", ["LE"]), ("CR", []), ("Double_Quote", ["DQ"]), ("E_Base", ["EB"]),
  ("E_Base_GAZ", ["EBG"]), ("E_Modifier", ["EM"]), ("Extend", []), ("ExtendNumLet", ["EX"]),
  ("Format", ["FO"]), ("Glue_After_Zwj", ["GAZ"]), ("Hebrew_Letter", ["HL"]), ("Katakana", ["KA"]),
  ("LF", []), ("MidLetter", ["ML"]), ("MidNum", ["MN"]), ("MidNumLet", ["MB"]),
  ("Newline", ["NL"]), ("Numeric", ["NU"]), ("Other", ["XX"]), ("Regional_Indicator", ["RI"]),
  ("Single_Quote", ["SQ"]), ("WSegSpace", []), ("ZWJ", [])]

def canonicalIn (table : List (String × List String)) (loose : String) : Option String :=
  (table.find? fun (long, others) => (long :: others).any fun n => looseName n == loose).map
    (·.1)

/-- The long name of a general category, a group of them, or `Any`, `Assigned` or `ASCII`, by
loose name. -/
def categoryNamed? (loose : String) : Option String :=
  if loose == "any" then some "Any"
  else if loose == "assigned" then some "Assigned"
  else if loose == "ascii" then some "ASCII"
  else canonicalIn categoryAliases loose

/-- Why a property query names no class of characters. -/
inductive PropertyFault where
  /-- No property has the name, or the property is not one that can be asked for alone. -/
  | propertyNotFound
  /-- The property has no such value, or none that can be asked for. -/
  | valueNotFound
  deriving Inhabited, BEq

/-- A query for the characters with a property, as a pattern writes it. -/
inductive PropertyQuery where
  /-- A one-letter name, as in `\pL`. -/
  | oneLetter (c : Char)
  /-- A name alone, as in `\p{Greek}`. -/
  | named (name : String)
  /-- A property and a value, as in `\p{Script=Greek}`. -/
  | byValue (property value : String)
  deriving Inhabited

namespace PropertyQuery

def found (fault : PropertyFault) :
    Option (List (Nat × Nat)) → Except PropertyFault (List (Nat × Nat))
  | some rs => .ok rs
  | none => .error fault

/-- The code points of a name alone: a boolean property if the name is one (and an unknown
property if that property is not boolean), else a general category, else a script. -/
def namedRanges (name : String) : Except PropertyFault (List (Nat × Nat)) :=
  let loose := looseName name
  let property :=
    if ["cf", "sc", "lc"].contains loose then none else canonicalIn propertyNames loose
  match property with
  | some p => found .propertyNotFound (booleanPropertyRanges? p)
  | none =>
    match categoryNamed? loose with
    | some c => found .valueNotFound (categoryRanges? c)
    | none =>
      match canonicalIn scriptAliases loose with
      | some s => found .valueNotFound (scriptRanges? s)
      | none => .error .propertyNotFound

/-- The code points with a value of a property. -/
def valueRanges (property value : String) : Except PropertyFault (List (Nat × Nat)) :=
  let v := looseName value
  let lookup (aliases : List (String × List String))
      (ranges : String → Option (List (Nat × Nat))) :=
    found .valueNotFound ((canonicalIn aliases v).bind ranges)
  match canonicalIn propertyNames (looseName property) with
  | none => .error .propertyNotFound
  | some "General_Category" => found .valueNotFound ((categoryNamed? v).bind categoryRanges?)
  | some "Script" => lookup scriptAliases scriptRanges?
  | some "Script_Extensions" => lookup scriptAliases scriptExtensionRanges?
  | some "Age" => lookup ageAliases agedRanges?
  | some "Grapheme_Cluster_Break" => lookup graphemeClusterBreakAliases graphemeClusterBreakRanges?
  | some "Sentence_Break" => lookup sentenceBreakAliases sentenceBreakRanges?
  | some "Word_Break" => lookup wordBreakAliases wordBreakRanges?
  | some _ => .error .valueNotFound

def ranges : PropertyQuery → Except PropertyFault (List (Nat × Nat))
  | .oneLetter c => namedRanges (String.singleton c)
  | .named name => namedRanges name
  | .byValue property value => valueRanges property value

end PropertyQuery

end Text

end ControlPlane
