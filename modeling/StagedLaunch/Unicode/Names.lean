/-!
# Names of properties and of their values

Each property and each value under the spellings that name it. Spellings are compared without case, blanks, hyphens and
underscores, so the tables hold only lower-case letters, digits and periods.
-/

namespace StagedLaunch.Unicode

/-- The spellings of each binary property. -/
def propertyNames : List (String × List String) := [
  ("ASCII_Hex_Digit", ["ahex", "asciihexdigit"]),
  ("Alphabetic", ["alpha", "alphabetic"]),
  ("Bidi_Control", ["bidic", "bidicontrol"]),
  ("Bidi_Mirrored", ["bidim", "bidimirrored"]),
  ("Case_Ignorable", ["ci", "caseignorable"]),
  ("Cased", ["cased"]),
  ("Changes_When_Casefolded", ["cwcf", "changeswhencasefolded"]),
  ("Changes_When_Casemapped", ["cwcm", "changeswhencasemapped"]),
  ("Changes_When_Lowercased", ["cwl", "changeswhenlowercased"]),
  ("Changes_When_Titlecased", ["cwt", "changeswhentitlecased"]),
  ("Changes_When_Uppercased", ["cwu", "changeswhenuppercased"]),
  ("Dash", ["dash"]),
  ("Default_Ignorable_Code_Point", ["di", "defaultignorablecodepoint"]),
  ("Deprecated", ["dep", "deprecated"]),
  ("Diacritic", ["dia", "diacritic"]),
  ("Emoji", ["emoji"]),
  ("Emoji_Component", ["ecomp", "emojicomponent"]),
  ("Emoji_Modifier", ["emod", "emojimodifier"]),
  ("Emoji_Modifier_Base", ["ebase", "emojimodifierbase"]),
  ("Emoji_Presentation", ["epres", "emojipresentation"]),
  ("Extended_Pictographic", ["extpict", "extendedpictographic"]),
  ("Extender", ["ext", "extender"]),
  ("Grapheme_Base", ["grbase", "graphemebase"]),
  ("Grapheme_Extend", ["grext", "graphemeextend"]),
  ("Hex_Digit", ["hex", "hexdigit"]),
  ("Hyphen", ["hyphen"]),
  ("IDS_Binary_Operator", ["idsb", "idsbinaryoperator"]),
  ("IDS_Trinary_Operator", ["idst", "idstrinaryoperator"]),
  ("ID_Continue", ["idc", "idcontinue"]),
  ("ID_Start", ["ids", "idstart"]),
  ("Ideographic", ["ideo", "ideographic"]),
  ("Join_Control", ["joinc", "joincontrol"]),
  ("Logical_Order_Exception", ["loe", "logicalorderexception"]),
  ("Lowercase", ["lower", "lowercase"]),
  ("Math", ["math"]),
  ("Noncharacter_Code_Point", ["nchar", "noncharactercodepoint"]),
  ("Pattern_Syntax", ["patsyn", "patternsyntax"]),
  ("Pattern_White_Space", ["patws", "patternwhitespace"]),
  ("Prepended_Concatenation_Mark", ["pcm", "prependedconcatenationmark"]),
  ("Quotation_Mark", ["qmark", "quotationmark"]),
  ("Radical", ["radical"]),
  ("Regional_Indicator", ["ri", "regionalindicator"]),
  ("Sentence_Terminal", ["sterm", "sentenceterminal"]),
  ("Soft_Dotted", ["sd", "softdotted"]),
  ("Terminal_Punctuation", ["term", "terminalpunctuation"]),
  ("Unified_Ideograph", ["uideo", "unifiedideograph"]),
  ("Uppercase", ["upper", "uppercase"]),
  ("Variation_Selector", ["vs", "variationselector"]),
  ("White_Space", ["wspace", "whitespace", "space"]),
  ("XID_Continue", ["xidc", "xidcontinue"]),
  ("XID_Start", ["xids", "xidstart"])]

/-- The spellings of each general category and of each union of them. -/
def categoryNames : List (String × List String) := [
  ("C", ["c", "other"]),
  ("Cc", ["cc", "control", "cntrl"]),
  ("Cf", ["cf", "format"]),
  ("Cn", ["cn", "unassigned"]),
  ("Co", ["co", "privateuse"]),
  ("L", ["l", "letter"]),
  ("LC", ["lc", "casedletter"]),
  ("Ll", ["ll", "lowercaseletter"]),
  ("Lm", ["lm", "modifierletter"]),
  ("Lo", ["lo", "otherletter"]),
  ("Lt", ["lt", "titlecaseletter"]),
  ("Lu", ["lu", "uppercaseletter"]),
  ("M", ["m", "mark", "combiningmark"]),
  ("Mc", ["mc", "spacingmark"]),
  ("Me", ["me", "enclosingmark"]),
  ("Mn", ["mn", "nonspacingmark"]),
  ("N", ["n", "number"]),
  ("Nd", ["nd", "decimalnumber", "digit"]),
  ("Nl", ["nl", "letternumber"]),
  ("No", ["no", "othernumber"]),
  ("P", ["p", "punctuation", "punct"]),
  ("Pc", ["pc", "connectorpunctuation"]),
  ("Pd", ["pd", "dashpunctuation"]),
  ("Pe", ["pe", "closepunctuation"]),
  ("Pf", ["pf", "finalpunctuation"]),
  ("Pi", ["pi", "initialpunctuation"]),
  ("Po", ["po", "otherpunctuation"]),
  ("Ps", ["ps", "openpunctuation"]),
  ("S", ["s", "symbol"]),
  ("Sc", ["sc", "currencysymbol"]),
  ("Sk", ["sk", "modifiersymbol"]),
  ("Sm", ["sm", "mathsymbol"]),
  ("So", ["so", "othersymbol"]),
  ("Z", ["z", "separator"]),
  ("Zl", ["zl", "lineseparator"]),
  ("Zp", ["zp", "paragraphseparator"]),
  ("Zs", ["zs", "spaceseparator"])]

/-- The spellings of each script. -/
def scriptNames : List (String × List String) := [
  ("Adlam", ["adlm", "adlam"]),
  ("Ahom", ["ahom"]),
  ("Anatolian_Hieroglyphs", ["hluw", "anatolianhieroglyphs"]),
  ("Arabic", ["arab", "arabic"]),
  ("Armenian", ["armn", "armenian"]),
  ("Avestan", ["avst", "avestan"]),
  ("Balinese", ["bali", "balinese"]),
  ("Bamum", ["bamu", "bamum"]),
  ("Bassa_Vah", ["bass", "bassavah"]),
  ("Batak", ["batk", "batak"]),
  ("Bengali", ["beng", "bengali"]),
  ("Bhaiksuki", ["bhks", "bhaiksuki"]),
  ("Bopomofo", ["bopo", "bopomofo"]),
  ("Brahmi", ["brah", "brahmi"]),
  ("Braille", ["brai", "braille"]),
  ("Buginese", ["bugi", "buginese"]),
  ("Buhid", ["buhd", "buhid"]),
  ("Canadian_Aboriginal", ["cans", "canadianaboriginal"]),
  ("Carian", ["cari", "carian"]),
  ("Caucasian_Albanian", ["aghb", "caucasianalbanian"]),
  ("Chakma", ["cakm", "chakma"]),
  ("Cham", ["cham"]),
  ("Cherokee", ["cher", "cherokee"]),
  ("Chorasmian", ["chrs", "chorasmian"]),
  ("Common", ["zyyy", "common"]),
  ("Coptic", ["copt", "coptic", "qaac"]),
  ("Cuneiform", ["xsux", "cuneiform"]),
  ("Cypriot", ["cprt", "cypriot"]),
  ("Cypro_Minoan", ["cpmn", "cyprominoan"]),
  ("Cyrillic", ["cyrl", "cyrillic"]),
  ("Deseret", ["dsrt", "deseret"]),
  ("Devanagari", ["deva", "devanagari"]),
  ("Dives_Akuru", ["diak", "divesakuru"]),
  ("Dogra", ["dogr", "dogra"]),
  ("Duployan", ["dupl", "duployan"]),
  ("Egyptian_Hieroglyphs", ["egyp", "egyptianhieroglyphs"]),
  ("Elbasan", ["elba", "elbasan"]),
  ("Elymaic", ["elym", "elymaic"]),
  ("Ethiopic", ["ethi", "ethiopic"]),
  ("Garay", ["gara", "garay"]),
  ("Georgian", ["geor", "georgian"]),
  ("Glagolitic", ["glag", "glagolitic"]),
  ("Gothic", ["goth", "gothic"]),
  ("Grantha", ["gran", "grantha"]),
  ("Greek", ["grek", "greek"]),
  ("Gujarati", ["gujr", "gujarati"]),
  ("Gunjala_Gondi", ["gong", "gunjalagondi"]),
  ("Gurmukhi", ["guru", "gurmukhi"]),
  ("Gurung_Khema", ["gukh", "gurungkhema"]),
  ("Han", ["hani", "han"]),
  ("Hangul", ["hang", "hangul"]),
  ("Hanifi_Rohingya", ["rohg", "hanifirohingya"]),
  ("Hanunoo", ["hano", "hanunoo"]),
  ("Hatran", ["hatr", "hatran"]),
  ("Hebrew", ["hebr", "hebrew"]),
  ("Hiragana", ["hira", "hiragana"]),
  ("Imperial_Aramaic", ["armi", "imperialaramaic"]),
  ("Inherited", ["zinh", "inherited", "qaai"]),
  ("Inscriptional_Pahlavi", ["phli", "inscriptionalpahlavi"]),
  ("Inscriptional_Parthian", ["prti", "inscriptionalparthian"]),
  ("Javanese", ["java", "javanese"]),
  ("Kaithi", ["kthi", "kaithi"]),
  ("Kannada", ["knda", "kannada"]),
  ("Katakana", ["kana", "katakana"]),
  ("Kawi", ["kawi"]),
  ("Kayah_Li", ["kali", "kayahli"]),
  ("Kharoshthi", ["khar", "kharoshthi"]),
  ("Khitan_Small_Script", ["kits", "khitansmallscript"]),
  ("Khmer", ["khmr", "khmer"]),
  ("Khojki", ["khoj", "khojki"]),
  ("Khudawadi", ["sind", "khudawadi"]),
  ("Kirat_Rai", ["krai", "kiratrai"]),
  ("Lao", ["laoo", "lao"]),
  ("Latin", ["latn", "latin"]),
  ("Lepcha", ["lepc", "lepcha"]),
  ("Limbu", ["limb", "limbu"]),
  ("Linear_A", ["lina", "lineara"]),
  ("Linear_B", ["linb", "linearb"]),
  ("Lisu", ["lisu"]),
  ("Lycian", ["lyci", "lycian"]),
  ("Lydian", ["lydi", "lydian"]),
  ("Mahajani", ["mahj", "mahajani"]),
  ("Makasar", ["maka", "makasar"]),
  ("Malayalam", ["mlym", "malayalam"]),
  ("Mandaic", ["mand", "mandaic"]),
  ("Manichaean", ["mani", "manichaean"]),
  ("Marchen", ["marc", "marchen"]),
  ("Masaram_Gondi", ["gonm", "masaramgondi"]),
  ("Medefaidrin", ["medf", "medefaidrin"]),
  ("Meetei_Mayek", ["mtei", "meeteimayek"]),
  ("Mende_Kikakui", ["mend", "mendekikakui"]),
  ("Meroitic_Cursive", ["merc", "meroiticcursive"]),
  ("Meroitic_Hieroglyphs", ["mero", "meroitichieroglyphs"]),
  ("Miao", ["plrd", "miao"]),
  ("Modi", ["modi"]),
  ("Mongolian", ["mong", "mongolian"]),
  ("Mro", ["mroo", "mro"]),
  ("Multani", ["mult", "multani"]),
  ("Myanmar", ["mymr", "myanmar"]),
  ("Nabataean", ["nbat", "nabataean"]),
  ("Nag_Mundari", ["nagm", "nagmundari"]),
  ("Nandinagari", ["nand", "nandinagari"]),
  ("New_Tai_Lue", ["talu", "newtailue"]),
  ("Newa", ["newa"]),
  ("Nko", ["nkoo", "nko"]),
  ("Nushu", ["nshu", "nushu"]),
  ("Nyiakeng_Puachue_Hmong", ["hmnp", "nyiakengpuachuehmong"]),
  ("Ogham", ["ogam", "ogham"]),
  ("Ol_Chiki", ["olck", "olchiki"]),
  ("Ol_Onal", ["onao", "olonal"]),
  ("Old_Hungarian", ["hung", "oldhungarian"]),
  ("Old_Italic", ["ital", "olditalic"]),
  ("Old_North_Arabian", ["narb", "oldnortharabian"]),
  ("Old_Permic", ["perm", "oldpermic"]),
  ("Old_Persian", ["xpeo", "oldpersian"]),
  ("Old_Sogdian", ["sogo", "oldsogdian"]),
  ("Old_South_Arabian", ["sarb", "oldsoutharabian"]),
  ("Old_Turkic", ["orkh", "oldturkic"]),
  ("Old_Uyghur", ["ougr", "olduyghur"]),
  ("Oriya", ["orya", "oriya"]),
  ("Osage", ["osge", "osage"]),
  ("Osmanya", ["osma", "osmanya"]),
  ("Pahawh_Hmong", ["hmng", "pahawhhmong"]),
  ("Palmyrene", ["palm", "palmyrene"]),
  ("Pau_Cin_Hau", ["pauc", "paucinhau"]),
  ("Phags_Pa", ["phag", "phagspa"]),
  ("Phoenician", ["phnx", "phoenician"]),
  ("Psalter_Pahlavi", ["phlp", "psalterpahlavi"]),
  ("Rejang", ["rjng", "rejang"]),
  ("Runic", ["runr", "runic"]),
  ("Samaritan", ["samr", "samaritan"]),
  ("Saurashtra", ["saur", "saurashtra"]),
  ("Sharada", ["shrd", "sharada"]),
  ("Shavian", ["shaw", "shavian"]),
  ("Siddham", ["sidd", "siddham"]),
  ("SignWriting", ["sgnw", "signwriting"]),
  ("Sinhala", ["sinh", "sinhala"]),
  ("Sogdian", ["sogd", "sogdian"]),
  ("Sora_Sompeng", ["sora", "sorasompeng"]),
  ("Soyombo", ["soyo", "soyombo"]),
  ("Sundanese", ["sund", "sundanese"]),
  ("Sunuwar", ["sunu", "sunuwar"]),
  ("Syloti_Nagri", ["sylo", "sylotinagri"]),
  ("Syriac", ["syrc", "syriac"]),
  ("Tagalog", ["tglg", "tagalog"]),
  ("Tagbanwa", ["tagb", "tagbanwa"]),
  ("Tai_Le", ["tale", "taile"]),
  ("Tai_Tham", ["lana", "taitham"]),
  ("Tai_Viet", ["tavt", "taiviet"]),
  ("Takri", ["takr", "takri"]),
  ("Tamil", ["taml", "tamil"]),
  ("Tangsa", ["tnsa", "tangsa"]),
  ("Tangut", ["tang", "tangut"]),
  ("Telugu", ["telu", "telugu"]),
  ("Thaana", ["thaa", "thaana"]),
  ("Thai", ["thai"]),
  ("Tibetan", ["tibt", "tibetan"]),
  ("Tifinagh", ["tfng", "tifinagh"]),
  ("Tirhuta", ["tirh", "tirhuta"]),
  ("Todhri", ["todr", "todhri"]),
  ("Toto", ["toto"]),
  ("Tulu_Tigalari", ["tutg", "tulutigalari"]),
  ("Ugaritic", ["ugar", "ugaritic"]),
  ("Vai", ["vaii", "vai"]),
  ("Vithkuqi", ["vith", "vithkuqi"]),
  ("Wancho", ["wcho", "wancho"]),
  ("Warang_Citi", ["wara", "warangciti"]),
  ("Yezidi", ["yezi", "yezidi"]),
  ("Yi", ["yiii", "yi"]),
  ("Zanabazar_Square", ["zanb", "zanabazarsquare"])]

/-- The spellings of each value of `Grapheme_Cluster_Break`. -/
def graphemeBreakNames : List (String × List String) := [
  ("Control", ["cn", "control"]),
  ("CR", ["cr"]),
  ("Extend", ["ex", "extend"]),
  ("L", ["l"]),
  ("LF", ["lf"]),
  ("LV", ["lv"]),
  ("LVT", ["lvt"]),
  ("Prepend", ["pp", "prepend"]),
  ("Regional_Indicator", ["ri", "regionalindicator"]),
  ("SpacingMark", ["sm", "spacingmark"]),
  ("T", ["t"]),
  ("V", ["v"]),
  ("ZWJ", ["zwj"])]

/-- The spellings of each value of `Word_Break`. -/
def wordBreakNames : List (String × List String) := [
  ("CR", ["cr"]),
  ("Double_Quote", ["dq", "doublequote"]),
  ("ExtendNumLet", ["ex", "extendnumlet"]),
  ("Extend", ["extend"]),
  ("Format", ["fo", "format"]),
  ("Hebrew_Letter", ["hl", "hebrewletter"]),
  ("Katakana", ["ka", "katakana"]),
  ("ALetter", ["le", "aletter"]),
  ("LF", ["lf"]),
  ("MidNumLet", ["mb", "midnumlet"]),
  ("MidLetter", ["ml", "midletter"]),
  ("MidNum", ["mn", "midnum"]),
  ("Newline", ["nl", "newline"]),
  ("Numeric", ["nu", "numeric"]),
  ("Regional_Indicator", ["ri", "regionalindicator"]),
  ("Single_Quote", ["sq", "singlequote"]),
  ("ZWJ", ["zwj"])]

/-- The spellings of each value of `Sentence_Break`. -/
def sentenceBreakNames : List (String × List String) := [
  ("ATerm", ["at", "aterm"]),
  ("Close", ["cl", "close"]),
  ("CR", ["cr"]),
  ("Extend", ["ex", "extend"]),
  ("Format", ["fo", "format"]),
  ("OLetter", ["le", "oletter"]),
  ("LF", ["lf"]),
  ("Lower", ["lo", "lower"]),
  ("Numeric", ["nu", "numeric"]),
  ("SContinue", ["sc", "scontinue"]),
  ("Sep", ["se", "sep"]),
  ("Sp", ["sp"]),
  ("STerm", ["st", "sterm"]),
  ("Upper", ["up", "upper"])]

end StagedLaunch.Unicode
