import RefLint.Unicode.Table

/-!
# General categories

Every character has one general category; groups of them have names of their own.
Names are compared without case, blanks, hyphens and underscores.
-/

namespace RefLint.Unicode

set_option autoImplicit false

inductive Category where
  | uppercaseLetter | lowercaseLetter | titlecaseLetter | modifierLetter | otherLetter
  | nonspacingMark | spacingMark | enclosingMark
  | decimalNumber | letterNumber | otherNumber
  | connectorPunctuation | dashPunctuation | openPunctuation | closePunctuation
  | initialPunctuation | finalPunctuation | otherPunctuation
  | mathSymbol | currencySymbol | modifierSymbol | otherSymbol
  | spaceSeparator | lineSeparator | paragraphSeparator
  | control | format | privateUse | unassigned
  deriving DecidableEq

namespace Category

/-- The categories in the order in which the table numbers them. -/
def all : List Category := [
  uppercaseLetter, lowercaseLetter, titlecaseLetter, modifierLetter, otherLetter,
  nonspacingMark, spacingMark, enclosingMark,
  decimalNumber, letterNumber, otherNumber,
  connectorPunctuation, dashPunctuation, openPunctuation, closePunctuation,
  initialPunctuation, finalPunctuation, otherPunctuation,
  mathSymbol, currencySymbol, modifierSymbol, otherSymbol,
  spaceSeparator, lineSeparator, paragraphSeparator,
  control, format, privateUse, unassigned]

def number (category : Category) : Nat := all.idxOf category

def casedLetters : List Category := [uppercaseLetter, lowercaseLetter, titlecaseLetter]

def letters : List Category := casedLetters ++ [modifierLetter, otherLetter]

def marks : List Category := [nonspacingMark, spacingMark, enclosingMark]

def numbers : List Category := [decimalNumber, letterNumber, otherNumber]

def punctuation : List Category := [
  connectorPunctuation, dashPunctuation, openPunctuation, closePunctuation,
  initialPunctuation, finalPunctuation, otherPunctuation]

def symbols : List Category := [mathSymbol, currencySymbol, modifierSymbol, otherSymbol]

def separators : List Category := [spaceSeparator, lineSeparator, paragraphSeparator]

def others : List Category := [control, format, privateUse, unassigned]

def named? : String → Option (List Category)
  | "lu" | "uppercaseletter" => some [uppercaseLetter]
  | "ll" | "lowercaseletter" => some [lowercaseLetter]
  | "lt" | "titlecaseletter" => some [titlecaseLetter]
  | "lc" | "casedletter" => some casedLetters
  | "lm" | "modifierletter" => some [modifierLetter]
  | "lo" | "otherletter" => some [otherLetter]
  | "l" | "letter" => some letters
  | "mn" | "nonspacingmark" => some [nonspacingMark]
  | "mc" | "spacingmark" => some [spacingMark]
  | "me" | "enclosingmark" => some [enclosingMark]
  | "m" | "mark" | "combiningmark" => some marks
  | "nd" | "decimalnumber" | "digit" => some [decimalNumber]
  | "nl" | "letternumber" => some [letterNumber]
  | "no" | "othernumber" => some [otherNumber]
  | "n" | "number" => some numbers
  | "pc" | "connectorpunctuation" => some [connectorPunctuation]
  | "pd" | "dashpunctuation" => some [dashPunctuation]
  | "ps" | "openpunctuation" => some [openPunctuation]
  | "pe" | "closepunctuation" => some [closePunctuation]
  | "pi" | "initialpunctuation" => some [initialPunctuation]
  | "pf" | "finalpunctuation" => some [finalPunctuation]
  | "po" | "otherpunctuation" => some [otherPunctuation]
  | "p" | "punctuation" | "punct" => some punctuation
  | "sm" | "mathsymbol" => some [mathSymbol]
  | "sc" | "currencysymbol" => some [currencySymbol]
  | "sk" | "modifiersymbol" => some [modifierSymbol]
  | "so" | "othersymbol" => some [otherSymbol]
  | "s" | "symbol" => some symbols
  | "zs" | "spaceseparator" => some [spaceSeparator]
  | "zl" | "lineseparator" => some [lineSeparator]
  | "zp" | "paragraphseparator" => some [paragraphSeparator]
  | "z" | "separator" => some separators
  | "cc" | "control" | "cntrl" => some [control]
  | "cf" | "format" => some [format]
  | "co" | "privateuse" => some [privateUse]
  | "cn" | "unassigned" => some [unassigned]
  | "c" | "other" => some others
  | "assigned" => some (all.filter (· ≠ unassigned))
  | "any" => some all
  | _ => none

def table : RunTable := .ofText
  "W1P1M3H1J3H1D1E1H1I1H1C2HA82H3I2HQ01D1H1E1K1B1KQ11D1I1E1IW2P1M1H4J1L1H1K1L141F1I1Q1L1K1L1I2
   A1K112H1K1A141G3A1HN01I70O11I81101110111011101110111011101110111011101110111011101110111011
   1011101110111011101110111011101110111011101110111021101110111011101110111011101110211011101
   1101110111011101110111011101110111011101110111011101110111011101110111011101110111011201110
   1110312011101120113021401120113031201120111011101120111021101120113011101120211410314410121
   1101211101211101110111011101110111011101110211011101110111011101110111011101110211012111011
   3011101110111011101110111011101110111011101110111011101110111011101110111011101110111011101
   11011101110111011101110111071201120211011401110111011101110X7124Q1I34KC3EK537K131K13HKYJ510
   111011131K10112S13311H104S2K101H301S101S2011H01S90W4110213031101110111011101110111011101110
   11101110111011105110111I10112021WK0WH110111011101110111011101110111011101110111011101110111
   0111011101110111L55271011101110111011101110111011101110111011101110111011101110111011101110
   1110111011101110111011101110111011101120111011101110111011101110211011101110111011101110111
   0111011101110111011101110111011101110111011101110111011101110111011101110111011101110111011
   10111011101110111011101110111011101110111011101110111011101110111011101110111SW702S136HWA11
   H1C2S2L1J1SWE51C151H251H251H158SR44S442HBS6Q3I2H1J2H2LB51H1Q3HW1413A4L5A84H2415Y641H14751Q1
   L6523251L4524A8342L14EH1S1Q1415U4R52SXR4B514ESA8W2495231L3H132S152JM4451395133513552SFH1SP4
   352S1H1SB45SO41K742Q5S95WA413O51QW1516WN41516151436854615261475A4252HA81H13F415261S842S242S
   M41S741S143S442S151436452S262S2615148S164S241S34252SA8242J6A1L1J141H152S25161S644S242SM41S7
   41S241S241S242S151S36254S252S353S157S441S147SA82534151HAS25161S941S341SM41S741S241S542S1514
   36551S25161S26152S14FS24252SA81H1J7S14651S15261S842S242SM41S741S241S542S1514161516452S262S2
   6157S25164S241S34252SA81L146AAS15141S643S341S443S241S141S243S243S343SC44S2615263S361S36152S
   146S16ESA83A6L1J1L5S153615841S341SN41SG42S151435461S351S457S251S341S242S24252SA87S1H7A1L141
   5261H841S341SN41SA41S542S15141615561S15261S26257S265S341S24252SA81S2416CS2526941S341SWA4251
   436451S361S3615141L4S34167A34252SA89A1L641S15261SI43SO41S941S142S743S154S36351S151S866SA82S
   261HCSWH41524754S1J6413851HA82HW6S241S141S541SO41S141SA4152495142S541S131S751SA82S44W1S143L
   FH1L1H3L256LA8AA1L151L151L151D1E1D1E26841SW544SE516551H2554B51SW551S8L156L1S2L5H4L2HW6SWC42
   64516651625262514A86H6426254435143624763445D415262566151416A836152LW701S105S102SWC11H1331fJ
   41S442S741S141S442SWA41S442SW241S442S741S141S442SF41SWQ41S442SX542S359HKA3SG4AL6SXO02S612S1
   Cp041L1HH41MQ41D1E3SXD43H39847SI435169SJ425162H9SI425CSD41S341S25CSWL4251675861526B53H133H1
   J14152SA86SAA6S6H1C4H351Q15A86SW4413WM47S5425W3415145SX84ASW041S354625364S261566354S1L3S2HA
   8U42S54BSWD44SQ46SA81A3SW3LN42526152S2HWM4161516751S151615268566A52S15A86SA86S7H136H2SE517W
   052SC5KS4516WG41516551615561526841S2HA87HAL959L3H2516U416452625163524A8WD415162536151635268
   S4HW54868526253S5HA83S34A8U4632H9110115SWC02S308H8S351HD5167544156415241625145SWD1X13D113W3
   1W63X25101110111011101110111011101110111011101110111011101110111011101110111011101110111011
   1011101110111011101110111011101110111011101110111011101110111011101110111011101110111011101
   1101110111011101110111011101110111011101110111011101110111011101110111011101110111011101110
   1110111011101110111011101110111091101110111011101110111011101110111011101110111011101110111
   0111011101110111011101110111011101110111011101110111011101110111011101110111011101110111011
   10111011101110111011101110111011101110111011109180612S602S81808180612S602S811S101S101S101S1
   08180E12S818281828182511S2140121K113K311S2140123K412S21401S3K81503K2S311S2140122K1SBM5Q6C2H
   1F1G1D2F1G1D1F8H1N1O5Q1M9H1F1G4H2B3H1I1D1EBH1I1H1BAH1M5Q1SAQ1A132S6A3I1D1E13AA3I1D1E1SD33SW
   3JESD5471537C5FS2L104L102L11302130111L102L1I506L101L101L101L401L11401144112L21205I10411L1I2
   L111LGAW491011491A2L4S5I5L2I4L1I2L1I2L1I7L1IW0L2I2L1I1L1IW0LdKI8L1D1E1D1EKL2I7L1D1EXJL1IULP
   IW9L6IXALMSBLLSWTAXGLMAaSL1I9L1IWNL8IYIL1Id0L1D1E1D1E1D1E1D1E1D1E1D1E1D1EUAWDL5I1D1EW0I1D1E
   1D1E1D1E1D1E1D1EGId8LZ7I1D1E1D1E1D1E1D1E1D1E1D1E1D1E1D1E1D1E1D1E1D1EX1I1D1E1D1EW1I1D1EdAIWH
   LLI2L6IW8L2SZELWH0WH11011302110111011101140111021106123301110111011101110111011101110111011
   1011101110111011101110111011101110111011101110111011101110111011101110111011101110111011101
   11011101110111011101110111011101110111011101110111011101110111011101110216L101110113510115S
   4H1A2HW711S115S112SWP47S131HES15N49S741S741S741S741S741S741S741S741SW152H1F1G1F1G3H1F1G1H1F
   1G9H1C2H1C1H1F1G2H1F1G1D1E1D1E1D1E1D1E5H13AH2C4H1C1H1DDH2L3H1D1E1D1E1D1E1D1E1CW3SQL1SXRLCSb
   SLQSGL1M3H1L1314191D1E1D1E1D1E1D1E1D1E2L1D1E1D1E1D1E1D1E1C1D2E1L9945261C532L3913141H2L1SXO4
   2S252K23141CXS41H33145SWC41SY141S2L4AALW14W7L9S1LG4W0L1SAAUL8A1LFAW1LAAW8LFAfALbvK4X2LqvQ41
   3WaR43SWOL9SW94632HdK4133HG4A824KS101110111011101110111011101110111011101110111011101110111
   011101110111011101110111011101110111415371HA51H13101110111011101110111011101110111011101110
   111011101110112325X84A9256H8SNK932K10111011101110111011101110311011101110111011101110111011
   1011101110111011101110111011101110111011101110111011101110111011101110111011101110111011101
   1101113811011101120111011101110111011132K10111011141011103110111011101110111011101110111011
   10111011501150111011101110111011101110111011401110112011101110111011101110111011101110KS431
   011142311741534154415N42625164L153S6A2L1J1L6SWL44H8S26WJ4G6258S2HA86SI5643H141H2415A8S4852H
   N4B526BS1HT43S3516WG4152645262536DH1S13A84S2H54151394A8541SWA465262526259S34158415162SA82S4
   HG413643L14161516WJ415143524255425141514OS24132HB41625262H14231615AS642S642S649S741S741SWC1
   1K4391132K4SXI1W4426152615261H16152SA86SgoC4CSN44SWI4XZ6SbpERgP42SYD4W7S71CS515S1415A41ID41
   S541S141S241S241SYF4HKGLgM41E1DGLX242LWN48LW1SC41J3LG57H1D1E1H6SG51H2C2B1D1E1D1E1D1E1D1E1D1
   E1D1E1D1E1D1E2H1D1E4H3B3H1S4H1C1D1E1D1E1D1E3H1I1C3I1S1H1J2H4S541SZB42S1Q1S3H1J3H1D1E1H1I1H1
   C2HA82H3I2HQ01D1H1E1K1B1KQ11D1I1E1I1D1E1H1D1E2HA413WE423W043S642S642S642S343S2J1I1K1L2J1S1L
   4I2LAS3Q2L2SC41SQ41SJ41S241SF42SE4W3SYU45S3H4SWEA3S9LWM94AHL2A3L1SDL3S1LWGSWEL15Z6ST43SWI4F
   S15RA4SW144A9SK41984195SW74555SU41S1HW544S841H59WBSW90W91XG42SA86SW504SW514SW948SWL4BS1HB01
   SF01S701S201SB11SF11S711S213SWL4CSf149SM4AS84OS631SWB31S93X7S642S141SWD41S243S142SN41S1H8AN
   42L7AW048S9AWHSJ41S245S5AM46A3S1HQ45S1HQ4W7SWP44S2A24GA2SWFA14351S255S45441S341ST42S354S159
   A7S9H7ST42A1HT43AW1S841LS4254S5A7H9SWN43S7HM42S8AJ45S8AI47S4HCS7AXISXB4WOSWK0DSWK17S6AW5445
   8SA86SA8441314M03S551C13M18S2IbMSW0A1SWB41S251C2S24GS3413248S1H8LW2S65T4AA148SM4B54A5HMSI44
   54HW7SL47AKSN49S161516WM4F57H4SKAA8152425149S3516WE4364526252H1Q4H15AS1Q2SP47SA86S35W545516
   851SA84H1426148SW44152H149S2516WH4369526444H451H1615A8141H143H1SKABSI41SP43635261516256H152
   415X0S741S141S441SF41SA41H6SWG41536855SA86S25261S842S242SM41S741S241S541S25142615462S262S36
   2S146S165S54262S753S55BSA41S142S141SW741S1436651S162S161S461S261516151415142H1S2H8S25TSWM43
   68526351615445HA82H1S1H1534USWH43665161546251625241H148SA8aBSWG436452S46251625NH4425W3SWH43
   685261516253H14BSA86SDHJSWC415161526651615141H6SA86SK8SSR42S151615264516554SA82A3H1L74aUSWD
   4369516251HY7SW10W11A89ACS842S142S841S241SO4661S262S25161514161416153H9SA8X8S842SW8436452S2
   54615141H1416RS14A5W94651614458H158S14652635WF4D516253H145HDSXB47SAHXOS151635161516XQSW241H
   ESA86S941SW6416751S651615145HASA8JA3S2HU42SM51S167516251625XBS741S241SW74653S151S251S751415
   8SA86S641S241SW14561S251S26151615147SA86SWA413244SA8cTSJ425262H7S251416D41SW3426553S2615161
   5DHA815XNS14FSLA8L4JHLDS1HyN4Y9SYI91S5HBSbA4Xs1SY442HDSWYI4GQ1564F5ASZZR45SnP4cYLSU4C53635A
   8WtTSnB47SW041SA84S2HXH41SA86SU42S551HASWH4755H4L431H1LASA81S7A1SL45SJ4iTS33W94233HA8bCSW10
   W11NA4H5SP02SP1WDSXD44S1514WO67S45D3X2S231H1315BS2623399Scq44WASW14Y4SYM4eWLS431S731S231SeC
   4FS14TS342S14ES448ShO4XhESYE45SD43S947SA42S1L251H4QZXQScNLA83L3Sj2L6SNLFSGL1IFSWF52SN59SYNL
   WTScTLASW8L2SWTL26353L668Q852L75UL45WULLSX4L351LYTSKACSKACSXPL9SPAZBSQ0Q1Q0711SI1Q0Q1101S20
   2S102S202S401S80411S111S711SB1Q0Q1201S402S801S701SQ1201S401S501S103S701SQ1Q0Q1Q0Q1Q0Q1Q0Q1Q
   0Q1Q0S12SP01IP11I61P01IP11I61P01IP11I61P01IP11I61P01IP11I6110112SWJ8lGLWO54LWJ58L15EL152L5H
   FS551SF5WZJSA114K16S61bRS751SH52S751S251S555SX03W2S15YJSWE43S75732SA84S141LfASU415HSWD445A8
   5S1JjUSR41345A8bSSU42514A84S1Hb6SW041S34152415742554158S1413c7S741S441S241SF41SbB42S9A75WAS
   W30W3175134SA84S2HuASWSA1L3A1J4AXESWEA1LFAb8S441SR41S241S142S141SA41S441S141S146S144S141S14
   1S141S341S241S142S141S141S141S141S141S241S142S441S741S441S441S141SA41SH45S341S541SH4WLS2IdM
   SWDL4SY7LCSFL2SFL1SFL1SW6LASDAa6LWPSTLDSWDL4S9L7S2LES6LZUSd3L5KsGL3SHL3SDL3Sc1L6SCL4S1LFSCL
   4SWPL8SAL6SW9L8SUL2SCL4S2LES9IW8Sg3L8SEL2SDL3SBL3SWQL1S1L4SGL2SCL4SAL7SZNL1SXULA81LWX6SWij2
   4W1SZmB42SbV842Sct24FSp24XmHSmF4WmISaZA45SduR4ssaCS1QUSY3QZ4ScN5Xaq2SXbb0R2SXbb0R2S"

def charsIn (categories : List Category) : CharTable :=
  table.select fun found => categories.any fun category => category.number == found

/-- Letters of any kind, marks, decimal digits, connecting punctuation and invisible joiners: the
characters that words consist of. -/
def wordChars : CharTable := .ofText
  "WHA7Q411QWG1A1415N1W01jO4CE57111HYO1224116113111K1XL1ZF1aI1W7216WA8WE111212118R44TB5XC4Y918
   2A1J21GWS2Y8EWN41212WFIS4B5O177XD1Z52A1J18222M1711342922248142152CA1112316422M1712121221154
   2233174117GB319131M1712152A131321F42A971318222M1712152922237342152A11G216331432111232333C45
   33142161EAGD131N1G291314721312242AG418131N1A152913147253142A13CD131WK131554752AA6131I3O1911
   27314611186A22DWR5F1AW8211151O111N2511171A24W11N26AB111114A1W54K1I1W591WQXC6XG2W711512WC1fN
   142711142WA142W2142711142F1WQ142X523W1GGXO263p02H1Q5XD3B7M9MBKCD1312CXM31422AW231B6XR7WC5X8
   AW01C4CAW925BWD4Q6AW7S4X11T2B6AD18WF2CKXF3AH9CYNCWP8A3WI2B5WC23G31W85m7262W726281111111W02W
   M1711331734264D5317F2WI2J1S1D1GDWKW2H1412A1135611111141B245541HWAv7WLWwGcC69CW711512WP71FO9
   7171717171717171W1WG1k43PF15254XO22231XS145WC1Y1HW1WHGlGbvKX2sWNX5WF2dL3SKWK1A1YMW692YA2XKK
   WO41JWLCX8AA6O311WI2W5CT3X3EB6W01WO9E2A6N3XBO32G25A6262697171WC1E6YU122A6goCCN4WIdtKgP2YDW7
   7C55C1D151112121YFW2gMIX22WNW9C4GGG32O3W151ZBJA7Q411QBXR36262623W4C1Q1J121F2EW3YUX7WMZC1Z6T
   3WIF1W0W1DU5WC5U2W54815WBa32A6W54W54W98WLCB1F17121B1F17123WLCf19MA8O61WB19X76211WD12312NAN9
   W0X3J12AMAQ6QW7WP62X241258131T2341W1T3TW481UPWNAMAJDIYHXBWOWKDWKDW98A6W7351Nd2WB1232G6WJW4A
   18W2W0MWBLRN9X9W0G9WT71DP7A6WM1A448W5219X7441D11W4I1W664X0711141F1A7WS5A6418222M1712151A222
   32161572735BA11211W71A11211418D2TXD5A44UX8118AaBWN29N6W3X331BAW7WQ7A6KSR2F4A67aUWSY8XCL8212
   8121U1229CAX882WF2812RX1818XC31IXBYA8XQW2FA691WE19FAOU2M1EXB7121WD3112198A66121W612167A6WD4
   AcTN9H1WA35DBXN1XHyNY9YIHbAXs1Y4FWYIGMAZZR5nPcYLWRWtTnB7W01A6XH1A6U25BWO94CA9L5JiTWE3AbCX2W
   1P2PWDXD4WQ7HX2212B79cq4WAW1Y4YMeWL417121eCF1T321E48hOXhEYE5D397A32ZfNAlMWF2NmF5368827U4ZO3
   j9XN1X9122122241C11171X31428171S141511371fU2P1P1W01P1W01P1W01P1W01P182WJlGWO4WJ81E1M51FWZJW
   066bR71H2712155X0W21YJWE3E2A41fBW0HWRk5WBbSWCbBW01M82c7714121F1bBB7WAXE4AWcC41R1211211A1411
   11614111111312112111111111121124171414111A1H53151Hp8Q6Q6QXsRAWX7Wij2W1ZmB2bV82ct2Fp2XmHmFWm
   IaZA5duRssiJcN"

def decimalDigits : CharTable := charsIn [decimalNumber]

def numerals : CharTable := charsIn numbers

end Category

end RefLint.Unicode
