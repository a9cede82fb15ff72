import RefLint.Unicode.Table

/-!
# Scripts

A character has at most one script. Some characters are used with further scripts, or
with others than their own; these exceptions are kept for each script.
-/

namespace RefLint.Unicode.Script

set_option autoImplicit false

def names : List (List String) := [
  ["adlm", "adlam"],
  ["ahom"],
  ["hluw", "anatolianhieroglyphs"],
  ["arab", "arabic"],
  ["armn", "armenian"],
  ["avst", "avestan"],
  ["bali", "balinese"],
  ["bamu", "bamum"],
  ["bass", "bassavah"],
  ["batk", "batak"],
  ["beng", "bengali"],
  ["bhks", "bhaiksuki"],
  ["bopo", "bopomofo"],
  ["brah", "brahmi"],
  ["brai", "braille"],
  ["bugi", "buginese"],
  ["buhd", "buhid"],
  ["cans", "canadianaboriginal"],
  ["cari", "carian"],
  ["aghb", "caucasianalbanian"],
  ["cakm", "chakma"],
  ["cham"],
  ["cher", "cherokee"],
  ["chrs", "chorasmian"],
  ["zyyy", "common"],
  ["copt", "coptic", "qaac"],
  ["xsux", "cuneiform"],
  ["cprt", "cypriot"],
  ["cpmn", "cyprominoan"],
  ["cyrl", "cyrillic"],
  ["dsrt", "deseret"],
  ["deva", "devanagari"],
  ["diak", "divesakuru"],
  ["dogr", "dogra"],
  ["dupl", "duployan"],
  ["egyp", "egyptianhieroglyphs"],
  ["elba", "elbasan"],
  ["elym", "elymaic"],
  ["ethi", "ethiopic"],
  ["gara", "garay"],
  ["geor", "georgian"],
  ["glag", "glagolitic"],
  ["goth", "gothic"],
  ["gran", "grantha"],
  ["grek", "greek"],
  ["gujr", "gujarati"],
  ["gong", "gunjalagondi"],
  ["guru", "gurmukhi"],
  ["gukh", "gurungkhema"],
  ["hani", "han"],
  ["hang", "hangul"],
  ["rohg", "hanifirohingya"],
  ["hano", "hanunoo"],
  ["hatr", "hatran"],
  ["hebr", "hebrew"],
  ["hira", "hiragana"],
  ["armi", "imperialaramaic"],
  ["zinh", "inherited", "qaai"],
  ["phli", "inscriptionalpahlavi"],
  ["prti", "inscriptionalparthian"],
  ["java", "javanese"],
  ["kthi", "kaithi"],
  ["knda", "kannada"],
  ["kana", "katakana"],
  ["kawi"],
  ["kali", "kayahli"],
  ["khar", "kharoshthi"],
  ["kits", "khitansmallscript"],
  ["khmr", "khmer"],
  ["khoj", "khojki"],
  ["sind", "khudawadi"],
  ["krai", "kiratrai"],
  ["laoo", "lao"],
  ["latn", "latin"],
  ["lepc", "lepcha"],
  ["limb", "limbu"],
  ["lina", "lineara"],
  ["linb", "linearb"],
  ["lisu"],
  ["lyci", "lycian"],
  ["lydi", "lydian"],
  ["mahj", "mahajani"],
  ["maka", "makasar"],
  ["mlym", "malayalam"],
  ["mand", "mandaic"],
  ["mani", "manichaean"],
  ["marc", "marchen"],
  ["gonm", "masaramgondi"],
  ["medf", "medefaidrin"],
  ["mtei", "meeteimayek"],
  ["mend", "mendekikakui"],
  ["merc", "meroiticcursive"],
  ["mero", "meroitichieroglyphs"],
  ["plrd", "miao"],
  ["modi"],
  ["mong", "mongolian"],
  ["mroo", "mro"],
  ["mult", "multani"],
  ["mymr", "myanmar"],
  ["nbat", "nabataean"],
  ["nagm", "nagmundari"],
  ["nand", "nandinagari"],
  ["talu", "newtailue"],
  ["newa"],
  ["nkoo", "nko"],
  ["nshu", "nushu"],
  ["hmnp", "nyiakengpuachuehmong"],
  ["ogam", "ogham"],
  ["olck", "olchiki"],
  ["onao", "olonal"],
  ["hung", "oldhungarian"],
  ["ital", "olditalic"],
  ["narb", "oldnortharabian"],
  ["perm", "oldpermic"],
  ["xpeo", "oldpersian"],
  ["sogo", "oldsogdian"],
  ["sarb", "oldsoutharabian"],
  ["orkh", "oldturkic"],
  ["ougr", "olduyghur"],
  ["orya", "oriya"],
  ["osge", "osage"],
  ["osma", "osmanya"],
  ["hmng", "pahawhhmong"],
  ["palm", "palmyrene"],
  ["pauc", "paucinhau"],
  ["phag", "phagspa"],
  ["phnx", "phoenician"],
  ["phlp", "psalterpahlavi"],
  ["rjng", "rejang"],
  ["runr", "runic"],
  ["samr", "samaritan"],
  ["saur", "saurashtra"],
  ["shrd", "sharada"],
  ["shaw", "shavian"],
  ["sidd", "siddham"],
  ["sgnw", "signwriting"],
  ["sinh", "sinhala"],
  ["sogd", "sogdian"],
  ["sora", "sorasompeng"],
  ["soyo", "soyombo"],
  ["sund", "sundanese"],
  ["sunu", "sunuwar"],
  ["sylo", "sylotinagri"],
  ["syrc", "syriac"],
  ["tglg", "tagalog"],
  ["tagb", "tagbanwa"],
  ["tale", "taile"],
  ["lana", "taitham"],
  ["tavt", "taiviet"],
  ["takr", "takri"],
  ["taml", "tamil"],
  ["tnsa", "tangsa"],
  ["tang", "tangut"],
  ["telu", "telugu"],
  ["thaa", "thaana"],
  ["thai"],
  ["tibt", "tibetan"],
  ["tfng", "tifinagh"],
  ["tirh", "tirhuta"],
  ["todr", "todhri"],
  ["toto"],
  ["tutg", "tulutigalari"],
  ["ugar", "ugaritic"],
  ["vaii", "vai"],
  ["vith", "vithkuqi"],
  ["wcho", "wancho"],
  ["wara", "warangciti"],
  ["yezi", "yezidi"],
  ["yiii", "yi"],
  ["zanb", "zanabazarsquare"]]

/-- The script of every character, by its position among the names from 1 on. -/
def table : RunTable := .ofText
  "X3PQXC6PQXCWGP1XCFP1XC5PNXC1PW0XC1PjFXCW8P5XC5P2DKPYJWR4WE1P3WE204WE1P1WE401WE1P1WE1P3WE101
   WE10KWE10X1WEEQGWEZ9U2WRaEU10W7520WJ5203510WOWO80RWO406WOB0541P641PE41P341PW141PA4BWRQ41WRY
   F41PW34EZK10WTZK203ZKWH4WJa0E0WSYC203YCWFZ720FZ710SXN201XN10BZK50W3450XD41PT4XJW14WRFW12PQW
   14B108B202B20MB107B101B304B209B202B204B801B402B105B20PB203WH106WH402WH20MWH107WH102WH102WH1
   02WH201WH105WH402WH203WH301WH704WH101WH70HWHA03WF109WF103WF10MWF107WF102WF105WF20AWF103WF10
   3WF201WFF04WF20CWF707WF103YR108YR202YR20MYR107YR102YR105YR209YR202YR203YR703YR402YR105YR20I
   YRA02ZR106ZR303ZR104ZR302ZR101ZR102ZR302ZR303ZR30CZR405ZR303ZR104ZR201ZR601ZRE0LZR50DZU103Z
   U10NZU10GZU209ZU103ZU104ZU702ZU103ZU102ZU204ZU20AZU709ZUDX1103X110NX110AX1105X1209X1103X110
   4X1702X1503X1104X120AX1103X1C0DXM103XM10WKXM103XM106XM40GXM20QXM103ZD10IZD30OZD109ZD101ZD20
   7ZD301ZD406ZD101ZD108ZD60AZD203ZDC0WRa1401PSa1W602XB101XB105XB10OXB101XB10NXB205XB101XB107X
   B10AXB204XBW10XAa210W5a240W8a210W5a210Fa2107a24P2a2W60a5Y6W7WA101WA501WA20WCWA1P4WAd8WKXBW8
   104W8207W8101W8104W820WAW8104W820W2W8104W8207W8101W8104W820FW810WQW8104W820X5W820W1W830QW86
   0XON206N20pKITYF30XDZ63PBZ670MZL901ZLLWM2P90KHC0DZM103ZM102ZMC0Y1X720AX760AX7602Y32P1Y31PKY
   360XRY370WCY350X8IA0W0XE10CXE40CXE401XE30CXEUZN205ZNB0WDYA40QYA60BYA302YAW1X7SG202GX1ZO10TZ
   O20BZO60AZO60EZO20WFWR20CWRK0XF710WJ7X2ZHWLA804AWPXD30FXD303XDWHYGBU50WCWA203WA8ZH803WR1PDW
   R1P7WR4P1WR6P1WR3P2WR1P50W7XC5WE1UWIXC5WE4XC5WEDXC1UX8XC1WEX2WRd8XCMWE206WE20W7WE206WE208WE
   101WE101WE101WE10W0WE20WMWE10FWE10EWE206WE10JWE203WE109WE10CP2WRXPP10BP1XC20BP1XCFP10DXC30W
   3PE0W2WRF0W7P1WE3P2XC6P1XCRP1XCHPWAXC3P40qFPM0BPL0yTPd8Fp8P20ZEPY3WBW1XCYNQ507QW7WA101WA501
   WA20WPa3702a3E01a3NW8907W8107W8107W8107W8107W8107W8107W8107W810W1UY1PW30QWJ10XRWJC0bSWJQ0LP
   1WJ1P1WJPP9WJ4WR2WK8P4WJ4P10XOWP202WR2P3WP1PXSX22P3X250WCD10Y1WK10GPW1DW7P901PGX2W0WK10X2PW
   0WKXJPWGX21PXQX2aDPbvKWJX2Pqv5WJWbIaE30WOaE90WHXHeLa9K0Y3UXQ880W3PY9XC3PXKXCK0FXCWEZJ30AP60
   WPZ280X8Z880CZ860W1W1WFX41P1X4W5Z5B01Z5TWK30XGWU101PAWU402WUW0Y610WOM90EM20AM204MW1Y6X5ZPO0
   5ZPNXSA06W8206W8206W8907W8107W810WCXC1P9XC1WE4XC2P40XINWFXS20AXS60goCWKC0NWK40WIWKdtK0gPWJ2
   0YDWJW707XCC05550QWO105WO101WO102WO102WO10AWOkT42PZK4W10G4GWRAP60EWR2UW4P10JP104P405410ZB42
   01P10W1PQXC6PQXCBPAX21PWEX22PW0WK306WK206WK206WK203WK307P107PA05P20CXG10QXG10JXG102XG10FXG2
   0EXGW30YUXG503P40WEP309PXHWE10DP301WEWG0WEP1WRZ60TXI30WIJF01WRRP40W5YJ903YJRWC50WCYL50Ua810
   1a8W5YM40EYMWB0XIW0WHZAUYT20AYT60W5YS40W5YS40W9W680WLKB01KBaA10FaA107aA102aA10BaA10FaA107aA
   102aA30WLa5C0f1XF90MXFA08XFO06XC10WBXC109XCX706S201S10WDS102S301S201SMWQ109WQW1Z0W0Y7809Y7W
   H0JWN102WN505WNSZ3301Z3QXJ501XJX20W1Y0OXU40KXU20WFXU4X5102X5508X5103X510TX5203X540AX5709X57
   0W1YOW1YKW10W8XO40CXO90WN63076MWT208WTJWS508WSIZ4704Z4C07Z4XI0XBYPWO0WKYID0WKYI706YIW9WL80A
   WL60W7W930TW9802W9bM0W0410WBaD103aD202aDG0648094W2064W9YN80WBZEM0QYQW70SOK0NW790XGE40W5E901
   EX5X0A01X020PZF70AZF60WML10IL80W8XK90Y3Z910KZDB0IX810WGX8X007Y5101Y5104Y510FY510BY560WSX950
   AX9604WD108WD202WD20MWD107WD102WD105WD101WR9WD202WD203WD201WD601WD507WD207WD305WDB0Aa7101a7
   201a710W7a710Aa7101a7201a7104a710Aa7102a7802a7T0XUYB105YBU0XAa480Aa4aB0WNZB20W7ZBW30X7Y2B0A
   Y260DY3J0WRZQ60AZQ60KY6S0R220F240N2aU0WTW3Y70XLaCC01aC7W2201W2208W2102W210UW2102W220CW290AW
   2X808Y920WFY920BY9R0XAaF80XLZGD0GIWQZ170AW1XO08Z9XQ0W3ZIE0AZI609C10WEC10ECA0TC30W1XP20MXP10
   EXPXB07XQ102XQ10WDXQ301XQ102XQ109XQ80AXQ606WG102WG10W6WG102WG106WG70AWGf00PXL70HX310WAX330T
   X3XN01XHF0WJZRD01ZRyNRY90YIR105RB0bARXs10Y6TD0WZPW5A0ZZRW550nP3cYL0WRWIWtT0nB870W0Y410AY440
   2Y4XHZS10AZS60U92069A0X8YUA0AYU107YU10LYU50JYUiT0WRXAbC0XTXRY80XDY140WQY170HY1X201ZT1YD2WJ1
   X6B07WJ90caUZTk5X6WA01X6W0ZTY40YMZTeWL04X2107X2102X2101X2e8WP3X2F01WPT03WP201X2E04X280hOYDX
   hE0YEW450DW4309W470AW4204W44PZXQ0d5P30j2P60NPF0HPF0WFWR20NWR90YNPWT0cTPA0W8P20X0P3WRHP8WR2P
   7WRUP4WRWUPL0X8WEYT0KPC0KPC0XPP90PPZB0XNP10X9P102P201P202P204P10CP101P107P10X3P104P208P107P
   10SP104P105P101P307P10fUP20eDP20WJPq1ZCF05ZC10FZCWZJ0W0XC606XCbR07WB10HWB207WB102WB105WB50X
   0UW201UYJ0WEYE30EYE20AYE402YEfA0W0a6H0WRaB501aBjU0WBY8bS0WCYH401YHkF07W8104W8102W810FW810bB
   XT20GXTWA0XE140A14021uA0X6PXE0WUPb804410R410241014201410A4104410141014601440141014101410341
   024101420141014101410141014102410142044107410441044101410A410H45034105410H4WL024dM0WDP40Y7P
   C0FP20FP10FP10W6PA0aJPWP0QP1WP2PD0WDP409P702PE06PZU0WVOP30HP30DP30c1P60CP401PF0CP40WPP80AP6
   0W9P80UP20CP402PE09PW80g3P80EP20DP30BP30WQP101P40GP20CP40AP70ZNP10YAPWX60Wij2WJW10ZmBWJ20bV
   8WJ20ct2WJF0p2WJXmH0mFWJWmI0aZAWJ50duRWJssaC01PU0Y3PZ40cNWRbnX60"

/-- By scripts, the characters that either belong to the script or are used with it, but not
both. -/
def exceptions : List (String × String) := [
  ("adlam", "WoH1W11by51Yr41"),
  ("arabic", "WnT1E131W11ABQ1bwJ1Yr41WtZ92WkES"),
  ("armenian", "u11"),
  ("avestan", "aS1hYF2"),
  ("bengali", "rI1WsA2H2aaA11122118181214123WbdS1"),
  ("bopomofo", "rT113D1hVR34A1DA42161b91Wsq82e35"),
  ("buginese", "Wjc91"),
  ("buhid", "baK2"),
  ("carian", "aS1di7121Yq51"),
  ("caucasianalbanian", "tS1WD1WD1"),
  ("chakma", "XoNAWq4A"),
  ("cherokee", "tO31162M2B2"),
  ("common", "aS1lK1A113119111ZU1qC1E131W11uS2XVJ1Wn03X92bH211WdK1D174161321vE1W01A121YpA1O2A14111iPG
       13211A1DG61144XT231XS2ZNGW1W791WHW9WPWIFCWK1XQPA5Y3W0zoM8eHAcR1a51rbU2dD2e35A1WE2gB34WE
       39iERWnj14bWNIdbS2"),
  ("coptic", "aS1nQ13211YF2gg11Wuq5S"),
  ("cypriot", "XbjA34WE39"),
  ("cyprominoan", "XbjA2"),
  ("cyrillic", "rI1X531111112151gU2bt31ZfG1"),
  ("devanagari", "rI1WsA2H2aaAW812WWM1WaVRA"),
  ("dogra", "XkHCWgdUA"),
  ("duployan", "aS1o2211O2gjQ1YiYS4"),
  ("elbasan", "aS1o01"),
  ("ethiopic", "u71"),
  ("garay", "WnT1E131"),
  ("georgian", "aS1WdO1YWF1ZXS1Yq81"),
  ("glagolitic", "aS1nT111hA121d91YWF1ZXS1YqQ1WWVB1"),
  ("gothic", "aS1nU221W91"),
  ("grantha", "XjT2H2pKEZk7112U332WWM1XXlQ1YfR211"),
  ("greek", "aS1nQ2211111A1WF121WF1cV42qG1"),
  ("gujarati", "XjT2H2Wge9A"),
  ("gunjalagondi", "aS1XeJ2"),
  ("gurmukhi", "XjT2H2Wge9A"),
  ("gurungkhema", "XkI1"),
  ("han", "aS1hmTG13211A1DA4216144b11ZOGW1W791WHW9WPWIFCWK1XQPA5Y3W0zoM8scD2e35WujGIdbS2"),
  ("hangul", "htD34A1DG161b91Wsq82e35"),
  ("hanifirohingya", "WnT1E131W11ZN1"),
  ("hanunoo", "baK2"),
  ("hebrew", "u02"),
  ("hiragana", "htD34A1DG61142XT431XS2Wsq72e35A1WE2"),
  ("inherited", "tOF1211F37212G121I1514DdT2jIBQ1sN2aaT31D17416132bC2WN111tD1ZWM4YE2WuVD1Zg11"),
  ("javanese", "Wjc91"),
  ("kaithi", "XkJAetG1WWkDA"),
  ("kannada", "XjT2H2aaA11261N111WbXO6"),
  ("katakana", "tT1T1gyF34A1DG61142XT431XS2Wsq72e35A1WE2"),
  ("kayahli", "WjX31"),
  ("khojki", "Xx0AWfwIA"),
  ("khudawadi", "XkH2Wge9A"),
  ("latin", "aS1lK1A113119111W7F1211F37212W71514DdT2WdH2XW71Yj71n81b61YkI1WWbE8mN1"),
  ("limbu", "XkI1"),
  ("lineara", "XbjHWE"),
  ("linearb", "XbjA34WE39"),
  ("lisu", "rI1G1hWH2"),
  ("lycian", "do51"),
  ("lydian", "aS1hYG1"),
  ("mahajani", "aS1XeJCWgdUA"),
  ("malayalam", "XjT2H2aaK1N1WbXQ3"),
  ("mandaic", "WpJ1"),
  ("manichaean", "WpJ1"),
  ("masaramgondi", "XkH2"),
  ("meroitichieroglyphs", "do81"),
  ("modi", "WitSA"),
  ("mongolian", "bh8211XaC1ZbJ254"),
  ("multani", "XsRA"),
  ("myanmar", "WjX31"),
  ("nandinagari", "XjT1I2xSAZcS18171WbXI6"),
  ("newa", "XjT2ab311291611111"),
  ("nko", "WnT1E131XYuM2"),
  ("olonal", "XkH2"),
  ("oldhungarian", "do5121Yq51F1"),
  ("oldpermic", "aS1nQ153A1gQ1"),
  ("oldturkic", "do51Yq71"),
  ("olduyghur", "WpJ1XciP1"),
  ("oriya", "XjT2H2aaK1N1"),
  ("osage", "tP12161XE1"),
  ("phagspa", "bh8211XaC1ZbK1"),
  ("psalterpahlavi", "WpJ1"),
  ("runic", "bY83"),
  ("samaritan", "heE1"),
  ("sharada", "XjT1ab611122219121WbY0621"),
  ("shavian", "aS1"),
  ("sinhala", "XkH2abD1"),
  ("sogdian", "WpJ1"),
  ("sunuwar", "tO2119121S131"),
  ("sylotinagri", "XkH2Z4A"),
  ("syriac", "tR22211O37212sH1E221W11ABQ1bd9111"),
  ("tagalog", "baK2"),
  ("tagbanwa", "baK2"),
  ("taile", "tO25231Yl0A"),
  ("takri", "XkH2Wge9A"),
  ("tamil", "XjT2H2aaK1WbeS1xcO111WO2"),
  ("tangut", "hsRGkU1"),
  ("telugu", "XjT2H2aaF21111N1"),
  ("thaana", "WnT1E221X2AXYy41A1"),
  ("thai", "rI1Q1WC1WE1"),
  ("tibetan", "htK4"),
  ("tifinagh", "tQ11114P1"),
  ("tirhuta", "XjT2H2aaF1C1F1WbXQA"),
  ("todhri", "tP121219111XC1"),
  ("toto", "rI1"),
  ("tulutigalari", "YiGAZd6111WbXO6b11"),
  ("yezidi", "WnT1E131X2A"),
  ("yi", "htD25A28c61WszD5")]

def number? (name : String) : Option Nat :=
  (names.findIdx? fun spellings => spellings.contains name).map (· + 1)

def chars? (name : String) : Option CharTable :=
  (number? name).map fun number => table.select (· == number)

/-- The characters for which a script and its exceptions are to be combined. -/
def exceptionsOf (name : String) : CharTable :=
  let spellings := (names.find? fun spellings => spellings.contains name).getD []
  match exceptions.find? fun entry => spellings.contains entry.1 with
  | some (_, text) => .ofText text
  | none => ⟨#[]⟩

end RefLint.Unicode.Script
