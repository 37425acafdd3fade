/-!
# Names of character properties

The properties of characters, and the values that they can have, as far as a class can be named by
them. Names stand here in their loose form, without spaces, dashes, underscores and capitals.
-/

namespace GrammarAtlas.Pattern

/-- The general categories. -/
def categoryNames : List String :=
  ["c", "casedletter", "cc", "cf", "closepunctuation", "cn", "cntrl", "co", "combiningmark",
    "connectorpunctuation", "control", "currencysymbol", "dashpunctuation", "decimalnumber",
    "digit", "enclosingmark", "finalpunctuation", "format", "initialpunctuation", "l", "lc",
    "letter", "letternumber", "lineseparator", "ll", "lm", "lo", "lowercaseletter", "lt", "lu", "m",
    "mark", "mathsymbol", "mc", "me", "mn", "modifierletter", "modifiersymbol", "n", "nd", "nl",
    "no", "nonspacingmark", "number", "openpunctuation", "other", "otherletter", "othernumber",
    "otherpunctuation", "othersymbol", "p", "paragraphseparator", "pc", "pd", "pe", "pf", "pi",
    "po", "privateuse", "ps", "punct", "punctuation", "s", "sc", "separator", "sk", "sm", "so",
    "spaceseparator", "spacingmark", "symbol", "titlecaseletter", "unassigned", "uppercaseletter",
    "z", "zl", "zp", "zs", "any", "ascii", "assigned"]

/-- The categories that no character has. -/
def emptyCategoryNames : List String := ["cs", "surrogate"]

/-- The scripts. -/
def scriptNames : List String :=
  ["adlam", "adlm", "aghb", "ahom", "anatolianhieroglyphs", "arab", "arabic", "armenian", "armi",
    "armn", "avestan", "avst", "bali", "balinese", "bamu", "bamum", "bass", "bassavah", "batak",
    "batk", "beng", "bengali", "bhaiksuki", "bhks", "bopo", "bopomofo", "brah", "brahmi", "brai",
    "braille", "bugi", "buginese", "buhd", "buhid", "cakm", "canadianaboriginal", "cans", "cari",
    "carian", "caucasianalbanian", "chakma", "cham", "cher", "cherokee", "chorasmian", "chrs",
    "common", "copt", "coptic", "cpmn", "cprt", "cuneiform", "cypriot", "cyprominoan", "cyrillic",
    "cyrl", "deseret", "deva", "devanagari", "diak", "divesakuru", "dogr", "dogra", "dsrt", "dupl",
    "duployan", "egyp", "egyptianhieroglyphs", "elba", "elbasan", "elym", "elymaic", "ethi",
    "ethiopic", "gara", "garay", "geor", "georgian", "glag", "glagolitic", "gong", "gonm", "goth",
    "gothic", "gran", "grantha", "greek", "grek", "gujarati", "gujr", "gukh", "gunjalagondi",
    "gurmukhi", "guru", "gurungkhema", "han", "hang", "hangul", "hani", "hanifirohingya", "hano",
    "hanunoo", "hatr", "hatran", "hebr", "hebrew", "hira", "hiragana", "hluw", "hmng", "hmnp",
    "hung", "imperialaramaic", "inherited", "inscriptionalpahlavi", "inscriptionalparthian", "ital",
    "java", "javanese", "kaithi", "kali", "kana", "kannada", "katakana", "kawi", "kayahli", "khar",
    "kharoshthi", "khitansmallscript", "khmer", "khmr", "khoj", "khojki", "khudawadi", "kiratrai",
    "kits", "knda", "krai", "kthi", "lana", "lao", "laoo", "latin", "latn", "lepc", "lepcha",
    "limb", "limbu", "lina", "linb", "lineara", "linearb", "lisu", "lyci", "lycian", "lydi",
    "lydian", "mahajani", "mahj", "maka", "makasar", "malayalam", "mand", "mandaic", "mani",
    "manichaean", "marc", "marchen", "masaramgondi", "medefaidrin", "medf", "meeteimayek", "mend",
    "mendekikakui", "merc", "mero", "meroiticcursive", "meroitichieroglyphs", "miao", "mlym",
    "modi", "mong", "mongolian", "mro", "mroo", "mtei", "mult", "multani", "myanmar", "mymr",
    "nabataean", "nagm", "nagmundari", "nand", "nandinagari", "narb", "nbat", "newa", "newtailue",
    "nko", "nkoo", "nshu", "nushu", "nyiakengpuachuehmong", "ogam", "ogham", "olchiki", "olck",
    "oldhungarian", "olditalic", "oldnortharabian", "oldpermic", "oldpersian", "oldsogdian",
    "oldsoutharabian", "oldturkic", "olduyghur", "olonal", "onao", "oriya", "orkh", "orya", "osage",
    "osge", "osma", "osmanya", "ougr", "pahawhhmong", "palm", "palmyrene", "pauc", "paucinhau",
    "perm", "phag", "phagspa", "phli", "phlp", "phnx", "phoenician", "plrd", "prti",
    "psalterpahlavi", "qaac", "qaai", "rejang", "rjng", "rohg", "runic", "runr", "samaritan",
    "samr", "sarb", "saur", "saurashtra", "sgnw", "sharada", "shavian", "shaw", "shrd", "sidd",
    "siddham", "signwriting", "sind", "sinh", "sinhala", "sogd", "sogdian", "sogo", "sora",
    "sorasompeng", "soyo", "soyombo", "sund", "sundanese", "sunu", "sunuwar", "sylo", "sylotinagri",
    "syrc", "syriac", "tagalog", "tagb", "tagbanwa", "taile", "taitham", "taiviet", "takr", "takri",
    "tale", "talu", "tamil", "taml", "tang", "tangsa", "tangut", "tavt", "telu", "telugu", "tfng",
    "tglg", "thaa", "thaana", "thai", "tibetan", "tibt", "tifinagh", "tirh", "tirhuta", "tnsa",
    "todhri", "todr", "toto", "tulutigalari", "tutg", "ugar", "ugaritic", "vai", "vaii", "vith",
    "vithkuqi", "wancho", "wara", "warangciti", "wcho", "xpeo", "xsux", "yezi", "yezidi", "yi",
    "yiii", "zanabazarsquare", "zanb", "zinh", "zyyy"]

/-- The scripts that no character has. -/
def emptyScriptNames : List String := ["hrkt", "katakanaorhiragana", "unknown", "zzzz"]

/-- The properties that a character has or has not. -/
def binaryNames : List String :=
  ["ahex", "alpha", "alphabetic", "asciihexdigit", "bidic", "bidicontrol", "bidim", "bidimirrored",
    "cased", "caseignorable", "changeswhencasefolded", "changeswhencasemapped",
    "changeswhenlowercased", "changeswhentitlecased", "changeswhenuppercased", "ci", "cwcf", "cwcm",
    "cwl", "cwt", "cwu", "dash", "defaultignorablecodepoint", "dep", "deprecated", "di", "dia",
    "diacritic", "ebase", "ecomp", "emod", "emoji", "emojicomponent", "emojimodifier",
    "emojimodifierbase", "emojipresentation", "epres", "ext", "extendedpictographic", "extender",
    "extpict", "graphemebase", "graphemeextend", "graphemelink", "grbase", "grext", "grlink", "hex",
    "hexdigit", "hyphen", "idc", "idcompatmathcontinue", "idcompatmathstart", "idcontinue", "ideo",
    "ideographic", "ids", "idsb", "idsbinaryoperator", "idst", "idstart", "idstrinaryoperator",
    "idsu", "idsunaryoperator", "joinc", "joincontrol", "loe", "logicalorderexception", "lower",
    "lowercase", "math", "mcm", "modifiercombiningmark", "nchar", "noncharactercodepoint", "oalpha",
    "odi", "ogrext", "oidc", "oids", "olower", "omath", "otheralphabetic",
    "otherdefaultignorablecodepoint", "othergraphemeextend", "otheridcontinue", "otheridstart",
    "otherlowercase", "othermath", "otheruppercase", "oupper", "patsyn", "patternsyntax",
    "patternwhitespace", "patws", "pcm", "prependedconcatenationmark", "qmark", "quotationmark",
    "radical", "regionalindicator", "ri", "sd", "sentenceterminal", "softdotted", "space", "sterm",
    "term", "terminalpunctuation", "uideo", "unifiedideograph", "upper", "uppercase",
    "variationselector", "vs", "whitespace", "wspace", "xidc", "xidcontinue", "xids", "xidstart"]

/-- The properties that no class can be named by. -/
def otherPropertyNames : List String :=
  ["bc", "bidiclass", "bidimirroringglyph", "bidipairedbracket", "bidipairedbrackettype", "blk",
    "block", "bmg", "bpb", "bpt", "canonicalcombiningclass", "casefolding", "ccc", "ce", "cf",
    "changeswhennfkccasefolded", "cjkaccountingnumeric", "cjkcompatibilityvariant", "cjkiicore",
    "cjkirggsource", "cjkirghsource", "cjkirgjsource", "cjkirgkpsource", "cjkirgksource",
    "cjkirgmsource", "cjkirgssource", "cjkirgtsource", "cjkirguksource", "cjkirgusource",
    "cjkirgvsource", "cjkothernumeric", "cjkprimarynumeric", "cjkrsunicode", "compex",
    "compositionexclusion", "cwkcf", "decompositionmapping", "decompositiontype", "dm", "dt", "ea",
    "eastasianwidth", "equideo", "equivalentunifiedideograph", "expandsonnfc", "expandsonnfd",
    "expandsonnfkc", "expandsonnfkd", "fcnfkc", "fcnfkcclosure", "fullcompositionexclusion",
    "hangulsyllabletype", "hst", "incb", "indicconjunctbreak", "indicpositionalcategory",
    "indicsyllabiccategory", "inpc", "insc", "isc", "jamoshortname", "jg", "joininggroup",
    "joiningtype", "jsn", "jt", "kaccountingnumeric", "kcompatibilityvariant", "kehcat", "kehcore",
    "kehdesc", "kehhg", "kehifao", "kehjsesh", "kehnomirror", "kehnorotate", "kiicore",
    "kirggsource", "kirghsource", "kirgjsource", "kirgkpsource", "kirgksource", "kirgmsource",
    "kirgssource", "kirgtsource", "kirguksource", "kirgusource", "kirgvsource", "kothernumeric",
    "kprimarynumeric", "krsunicode", "lb", "lc", "linebreak", "lowercasemapping", "na", "na1",
    "name", "namealias", "nfcqc", "nfcquickcheck", "nfdqc", "nfdquickcheck", "nfkccasefold",
    "nfkccf", "nfkcqc", "nfkcquickcheck", "nfkcscf", "nfkcsimplecasefold", "nfkdqc",
    "nfkdquickcheck", "nt", "numerictype", "numericvalue", "nv", "ocomment", "scf", "sfc",
    "simplecasefolding", "simplelowercasemapping", "simpletitlecasemapping",
    "simpleuppercasemapping", "slc", "stc", "suc", "tc", "titlecasemapping", "uc", "unicode1name",
    "unicoderadicalstroke", "uppercasemapping", "urs", "verticalorientation", "vo", "xonfc",
    "xonfd", "xonfkc", "xonfkd"]

/-- The versions of the standard that brought new characters. -/
def ageNames : List String :=
  ["1.1", "v11", "10.0", "v100", "11.0", "v110", "12.0", "v120", "12.1", "v121", "13.0", "v130",
    "14.0", "v140", "15.0", "v150", "2.0", "v20", "2.1", "v21", "3.0", "v30", "3.1", "v31", "3.2",
    "v32", "4.0", "v40", "4.1", "v41", "5.0", "v50", "5.1", "v51", "5.2", "v52", "6.0", "v60",
    "6.1", "v61", "6.2", "v62", "6.3", "v63", "7.0", "v70", "8.0", "v80", "9.0", "v90", "15.1",
    "v151", "16.0", "v160"]

/-- The classes of characters where graphemes are told apart. -/
def graphemeBreakNames : List String :=
  ["cn", "control", "cr", "ex", "extend", "l", "lf", "lv", "lvt", "pp", "prepend",
    "regionalindicator", "ri", "sm", "spacingmark", "t", "v", "zwj"]

/-- The classes of characters where words are told apart. -/
def wordBreakNames : List String :=
  ["aletter", "cr", "doublequote", "dq", "ex", "extend", "extendnumlet", "fo", "format",
    "hebrewletter", "hl", "ka", "katakana", "le", "lf", "mb", "midletter", "midnum", "midnumlet",
    "ml", "mn", "newline", "nl", "nu", "numeric", "regionalindicator", "ri", "singlequote", "sq",
    "wsegspace", "zwj"]

/-- The classes of characters where sentences are told apart. -/
def sentenceBreakNames : List String :=
  ["at", "aterm", "cl", "close", "cr", "ex", "extend", "fo", "format", "le", "lf", "lo", "lower",
    "nu", "numeric", "oletter", "sc", "scontinue", "se", "sep", "sp", "st", "sterm", "up", "upper"]

end GrammarAtlas.Pattern
