import RefLint.Unicode.Table

/-!
# Properties of characters that hold or do not hold
-/

namespace RefLint.Unicode.Property

set_option autoImplicit false

def tables : List (List String × String) := [
  (["asciihexdigit", "ahex"],
    "WHA76Q6"),
  (["alphabetic", "alpha"],
    "X3Q6QWG1A1415N1W01jO4CE57111XO1TI1224116113111K1XL1ZF8aB1W7216WAW8E111212118R44TB5WP17EY9
     184843A321GWHDY8OW292415O2JJP7B5O17718WBAC376XE1G134FDJ18222M17113438222211814215C2A14316
     422M17121212454222417411H6B319131M17121539131231F4L44318222M171215382222924215D1G21633143
     2111232333C4533133161W9D131N1G38131382131224S418131N1A15381313825314D3CD131WA281313115475
     M6131I3O191127861118I2DWR5761WK211151O111J13251161E4W11X181W54J4G1W5X5WO1125GX2A42W711512
     WC1fN142711142WA142W2142711142F1WQ142X5W6GGXO263p02H1Q5XD3B7KBLCKCD1312CWL2JE141X5XR7WC5X
     8AW01C49NU25BWD4QWNS4X12KWJ1N2B3WIWL1F18WKWB24AWD1BEWOM3AW52B5WC23WA41612315b6JW3BdU262W7
     26281111111W02WM1711331734264D5317YN1D1GDY81412A1135611111141B245541HWAv7WLWwGcC6432CW711
     512WP71GN97171717171717171W1WG1k43P975254XO631XS145WC1Y1HW1WHGlGbvKX2sWNX5WF2dL3GA2KWG583
     YKW892YA2XKKL1W2OWLCX611WD63113AW25W4DT3WK1CF1GGA51WO9EIN3X71111O32G24B6262697171WC1E6YUL
     goCCN4WIdtKgP2YDW77C55C1D151112121YFW2gMIX22WNW9CYN51ZBW5Q6QBXR36262623W4C1Q1J121F2EW3YUX
     7WMdJT3WIWGW1DU5WC5U2W54815WBa3IW54W54W98WLCB1F17121B1F17123WLCf19MA8O61WB19X76211WD12312
     NAN9W0X3J12AMAQ6QW7WP62X241258131TWBT3TW481SRWNAMAJDIYHXBWOWKDWKDW9W3S315Nd2WB1232G6WJ33T
     A18MWBIWFLRN9X8WC5AWQ91DPNWKH48W4319X21492A111W4I1W32164X0711141F1A7WQN418222M17121538222
     2316157SA11211W71A112114123111WDX41314K3UX42211aTWN27P6W3X11131WSWN21X9R2EL7aUWQYAX2W0821
     28121U122224Y082WF261112RWK2AHXA51IXBYA8XQW2W091WE1711WIU2M1EXB7121WD3112131122O6121W6121
     411NWDdCN9H1WA33YI1XHyNY9YIHbAXs1Y4FWYIH6PZZR5nPcYLWGWu9nB7W0HXHHUIWHG4W0L5JiTWEbPX2W1P2P
     WDXD4WQ7HX2211C79cq4WAW1Y4YMeWL417121eCF1T321E48hOXhEYE5D397A41bc2XN1X9122122241C11171X31
     428171S141511371fU2P1P1W01P1W01P1W01P1W01P18WxFW066bR71H2712155X0W21YJWEA7G1fBUIWDkJScBU2
     1bLW01M82c7714121F1bBWSX63131WcQ41R1211211A141111614111111312112111111111121124171414111A
     1H53151Hp8Q6Q6QYvDWij2W1ZmB2bV82ct2Fp2XmHmFWmIaZA5duR"),
  (["bidicontrol", "bidic"],
    "WoE1bx72Q5WO4"),
  (["bidimirrored", "bidim"],
    "W92I111S111T111WE1F1YvL4WyP2XmB2A2WN2E2aM1b643631323414111149511I549211181W12451922J52952
     24O2G84K272WZ0EXC124121354533Ei0M261E817631451225411322A622CJ14211121145263O2B24412224WC2
     81W951113553413511d81lJ43212E22AWC8iOA28Wsy4652a72I111S111T1111212WvhA1WQ1WQ1WQ1WQ1"),
  (["caseignorable", "ci"],
    "W8161B1W4111X9141114122l7b642419211d37bL151WIWE11121211WD1B6AB11W41ALG1Y881A14W2111URXTBW
     RB4121OOWC3WD17259WAWRWO111484137A2D1F1WR14481K2Q122WQ142422331U231B2WQ1451241K2M611WR121
     148172B2U1WU1C1WJ131WO113531472B2T1WR1216152K2S2WQ24481K2T1XA17311XS127B9Y51299117XB2R111
     11WOE15125B1W591Y94161222P243G4D12261F1Y11oJ3zG3T2U2U2X2217812B3151WE5WK1X32W31YP3429163c
     2221WR1171111286A21W818WF2CK4WH1151151W99C2W142213WP1123113WR822X26XK31D17416132WJX1D1W3Y
     8jB113B3D3D3D2C582A12125WI51A11D1GDWKW2YXA2YK3Z11F1Y3W1WG1k41W543551Y06Y03ynB1WeA6dM1Y541
     A11S4XI2EW3XG1N3Y9432813141P251ZR2QID1W78PBWF3WH12422H1L2X462222C181W41B1WK113225211R1E25
     211Y7593YS12141qXT1ZNHnFG31CGW3121aE17161B1W4111WG1WE2X51L3lH1c91ZP5WX661WB19nO31254W9341
     aA2nF4W71Q511f52O1WL6X8BWI4YU1WNFWA122A3WI4222141A1WJ3W5518X01C2WL9A421Y2321126121a2138L2
     WQ231W6735X86D11111E2XN82311N1XM6114212cL46212R2XN82112YD1112611Y81112415dB912d821141ZK42
     241W1AW9624819623WFD12bC11311bF71611XKM271212YT631121711XA23111X31e22B2WL55111N1am1H6FgxP
     C33XnG5WS794lC3W92kH1X1HX2212D2mWC41712Yg6214ZwJWF2NmH39G27U4ZO3XWQWO4WJ81E1M51FWhR71H271
     2155X0W21a5EgR1WU4lB5d62cQ121725191jU7YG8Xv75vklS1UY3Z4cN"),
  (["cased"],
    "X3Q6QWG1A1415N1W01b9144bM2W472U5Y31WB42224116113111K1XL1ZF8aB1W79WAXyIW711512WC14qLXO26Xd
     8B5WC23X2b6X2dU262W726281111111W02WM1711331734264D5317YN1D1GDY81412A113561111114164124554
     1HW132vBWLWwGcC6432CW71151WWcPWFIUZ8Y9341XFK613vFWC1E6XIqYE7C5WXAQ6QWcBXIY3W54W5YNB1F1712
     1B1F1712jH1231WB19WdCWKDWKY0MAMXyLX2rs1X2W1P2PvyFXN1X9122122241C11171X31428171S141511371f
     U2P1P1W01P1W01P1W01P1W01P18WxFA1K66dDX0XdOX6XYDQ6Q6Q"),
  (["changeswhencasefolded", "cwcf"],
    "X3QXS1AN18W111111111111111111111111111111111111111111111111111111112111111111111111121111
     11111111111111111111111111111111111111111211111112111213241213321211111211211213111231721
     21211111111111111112111111111111111112211131111111111111111111111111111111111111111111111
     1111111111117212211411111111cT1WB1113181611311121H19M1C3321111111111111111111111111222111
     22WKWH11111111111111111111111111111111191111111111111111111111111111111111111111111111111
     11111211111111111121111111111111111111111111111111111111111111111111111111111111111111111
     11111111111111111111111112W7WH1XyJW71151v46Xd8A6WC23fA11111111111111111111111111111111111
     11111111111111111111111111111111111111111111111111111111111111111111111111111111111111111
     11111111111111111111111115221111111111111111111111111111111111111111111111111111111111111
     1111111111111111111111111111111111119886A88886B111111188GWH23265326B4C55326eI13261WEGJ1vC
     QWxBWHWH113211111141121831111111111111111111111111111111111111111111111111111111111111111
     1111111111111111111111111111111111811141WWeM111111111111111111111111111111111111111111111
     J111111111111111111111111111ZB11111111111113111111111111111111111111111111111111111111111
     1111111111111111A111121111111141112111311111111111111111111515111111111111111411121111111
     111111111O1xMXIqYE7C5WXAQWdCW9ZCW5a1B1F1712Wv3WKa2MXzMW1rt2W1X2PWWmOW3"),
  (["changeswhencasemapped", "cwcm"],
    "X3Q6QWR1AN1W01X21XM1S2E22114Y01I6R1211123214152112217121123651A2aB1WB42233116113111K1WG3W
     2151Z98aB1W7AW8XyJW711512WC23qLXO26Xd8B5WC23aU131G1YKa1211YP262W726281111111W02WM17113317
     34264D5317eI13261R1HW132vBWLWwGYK12127Y97432CW71151WWcPWFISZAE2X09F33251P1WEO2wN1SXIqYE7C
     5WXAQ6QWcBXIY3W54W5YNB1F17121B1F1712WtQWKDWKY0MAMXyLX2rs1X2W1P2PWWlSX6"),
  (["changeswhenlowercased", "cwl"],
    "X3QY8N17W21111111111111111111111111111111111111111111111111111111211111111111111121111111
     11111111111111111111111111111111111111121111321112132412133212111112112112131112317212121
     11111111111111121111111111111111122111311111111111111111111111111111111111111111111111111
     111111117212211411111111eA1113181611311121H19W418111111111111111111111115121122WKWH111111
     11111111111111111111111111191111111111111111111111111111111111111111111111111111112111111
     11111121111111111111111111111111111111111111111111111111111111111111111111111111111111111
     11111111111112W7YV6W71151s9XOXdP16WC23fA1111111111111111111111111111111111111111111111111
     11111111111111111111111111111111111111111111111111111111111111111111111111111111111111111
     11111111111911111111111111111111111111111111111111111111111111111111111111111111111111111
     111111111111111111119886A88886B111111188O8888885B5B4C5B5eI13261WEGJ1vCQWxBWHWH11321111114
     11218311111111111111111111111111111111111111111111111111111111111111111111111111111111111
     111111111111111811141WWeM111111111111111111111111111111111111111111111J111111111111111111
     111111111ZB111111111111131111111111111111111111111111111111111111111111111111111111111A11
     1121111111141112111311111111111111111111515111111111111111411121111111111111111O1sbQQWdCW
     9ZCW5a1B1F1712Wv3WKa2MXzMW1rt2W1X2PWWmOW3"),
  (["changeswhentitlecased", "cwt"],
    "Y4QWR1WAO18111111111111111111111111111111111111111111111111111111112111111111111112111111
     11111111111111111111111111111111111111112111132111213151213321211111214121311121311141121
     21111111111111111121111111111111111131111311111111111111111111111111111111111111131111111
     111111111181221141111111161211123214152112217121123651A2aB1WC1113133I1RW41233111111111111
     111111111115112121WLWH1111111111111111111111111111111111911111111111111111111111111111111
     11111111111111111111121111111111112111111111111111111111111111111111111111111111111111111
     111111111111111111111111111111111111111111WIW8Yv76Xd8911cL131G1YL111111111111111111111111
     11111111111111111111111111111111111111111111111111111111111111111111111111111111111111111
     11111111111111111111111111111111111751111111111111111111111111111111111111111111111111111
     111111111111111111111111111111111111111111986A88886A8888E2888888512613312842288A312g11W2G
     41w6QWy2WH11321111116121A1111111111111111111111111111111111111111111111111111111111111111
     11111111111111111111111111111111111811141CW71151WWcQ1111111111111111111111111111111111111
     11111111J111111111111111111111111111ZB111111111111131111111111111111111111111111111111111
     111111111111111111111111A111211111111141411221111111111111111111B111111111111111411121111
     11111111111Q1wN1SXIqYE7C5WYBQWdKW9ZCW5a0B1F1712WvSWKZ1MXzMW1rt2W1WSPWWn0W3"),
  (["changeswhenuppercased", "cwu"],
    "Y4QWR1WAO18111111111111111111111111111111111111111111111111111111112111111111111112111111
     11111111111111111111111111111111111111112111132111213151213321211111214121311121311152121
     21111111111111112111111111111111112121131111111111111111111111111111111111111113111111111
     1111111181221141111111161211123214152112217121123651A2aB1WC1113133I1RW4123311111111111111
     1111111115112121WLWH111111111111111111111111111111111191111111111111111111111111111111111
     11111111111111111112111111111111211111111111111111111111111111111111111111111111111111111
     1111111111111111111111111111111111111111WIW8YV5WC23tG6Xd8911cL131G1YL11111111111111111111
     11111111111111111111111111111111111111111111111111111111111111111111111111111111111111111
     11111111111111111111111111111111111111175111111111111111111111111111111111111111111111111
     1111111111111111111111111111111111111111111111986A88886A8888E2WM124111331241342288A31241f
     R1W2G41w6QWy2WH11321111116121A11111111111111111111111111111111111111111111111111111111111
     1111111111111111111111111111111111111111811141CW71151WWcQ11111111111111111111111111111111
     1111111111111J111111111111111111111111111ZB1111111111111311111111111111111111111111111111
     11111111111111111111111111111A111211111111141411221111111111111111111B1111111111111114111
     2111111111111111Q1wN1SXIqYE7C5WYBQWdKW9ZCW5a0B1F1712WvSWKZ1MXzMW1rt2W1WSPWWn0W3"),
  (["dash"],
    "WE1Wi81WK1YtM1WX61XZB6WU1W81F1hI1Yb7121W0241S1jC1J1YI1WssH2W61A1aE1YuM1f81"),
  (["defaultignorablecodepoint", "di"],
    "aI1qM1s31XzU2Wq72XN5XYS5Q5WIGZl01WskKGcM1a51XH9WocS4alQ8vtrTZd4"),
  (["deprecated", "dep"],
    "fJ1WgJ1XhD111XaC2XfD6rF2zkgG1"),
  (["diacritic", "dia"],
    "Y1111X91614122l7a41856H24192d55bN1WOWE11121211Z7842ZA24233X5RXTBWRBW32Z28WAAGSWU1G134S1XC
     1G1YH1G1YH1G1WG3WT1G171YQ1YH1G1YH1G1YG2G1Z01YI1C611YE1D5XD2R1111142X4312X01YJ112W9245P711
     A2rN3zI2U1ZOB91g63eD1K821WHF2B3F2CXA1F1W79WN2WR1B2X42X26XKP416123WJX1WHW55CW6BjB113B3D3D3
     D2YiQ3f71lA6YC4Y21WVdR1C211S2XK2EW3Y93Y9162C1W61ZR1RIWQ4W51Y21C1W51ZP3X34WK1Y7593Z42qXT1t
     PGdM111WG1WE2X51tK1Wc561WB19pH341aA2nD6W71Q5hO123X8BWI4b61WA1XA2YR2X01XE193YB2aN2XI2G1O73
     5XR312D2Y2131YU2d32Z21YP2YM1dL2dA241a11XL1I1XJ1iI1dA112XJ1X31gI2N1amOFgyB1XnG5WS7n62mJHXI
     2mWE41712dd1WF2NmH3368827U4YvPX0b87h31WU4tM2sN7YG313"),
  (["emoji"],
    "W41615AYI141dhH1C1bU1M1XS6F2gQ2C1aB1PB43bD1cE2A191WR415912122214121122131328351115CB22112
     11I122I6111232512242B25221521112K256142141212611211111613161A2F12141114311B2WH391E1E1h02j
     T3J2WK141We21C1oC111Yup81bG1a52C2E12AXDQ12N1K129L2aJW32YJ22132XL231dF1X1B61O7228C1242142D
     221829153C38321114161316XOWHX858243A3112312AcAC41e4WG1A1aUYJD3B3WQ114G2C4A"),
  (["emojicomponent", "ecomp"],
    "W41615AdjP1bR1WwxD1XXyJQlB5WkU4vjWPY3"),
  (["emojimodifier", "emod"],
    "ZeaR5"),
  (["emojimodifierbase", "ebase"],
    "fZN1c21G4YypH1WT32123YO22BLJ3143137111O1bF241L142aJ335XL1G391B1nH12188619A23WP1WU21211H31
     DcC3WB9"),
  (["emojipresentation", "epres"],
    "efR2bJ43121lP2L2WJCWC1J1D182H2528151L1721141217142S1W41114311WU3O1E1wM2WK141Ywn81bG1b412A
     XDQ11O1K12513L2aJW2C91X81MCWC45CH313X9111b12X1D41OI1Q2D1XOXNWHX861332434B279cAC41e4WG1A1a
     UYJD3B3WQ114G2C4A"),
  (["extendedpictographic", "extpict"],
    "aE141dhH1C1bU1M1XS6F2gQ2C1aB1PB43bD1cE2A191WR415912122214121122131328351115CB2211211I122I
     6111232512242B25221521112K256142141212611211111613161A2F12141114311B2WH391E1E1h02jT3J2WK1
     41We21C1oC111Yup81W84Y7CF2F1E2W6AYJ2C2E12AJWPRFA1K129149N6b22YJ22132XL23145d61X1B61O7228C
     1242142D221829153C38321114161316XOWHX8582H31162Dc1W7C4WP8A6W98U2C42E9W8CWG1A1aUXQ8EZMd8WW
     U"),
  (["extender", "ext"],
    "aS1m92xA1j71pA1ZD1XR1t81Z31XjF1WP1oM1hQ1X61abA1WC5YA2Y03ynB1Wn71WV11M1ZD1YF1L2rkK1XZI2WlQ
     1R141WdE1eE1YN2l23WdM1vQ1po72Wc2211E2zaF2WcN1wF3"),
  (["graphemebase", "grbase"],
    "W1Y2W2D1o5YJ82647111K1c77aB1W72WJ23WF11121219R46HAB11WFLG1Y88162214W1211UTXRB1EWC973O4191
     317F1P511B5W1GWBWQWO111484137A2T1218222M1711343112622211D2134O5116422M1712121243O4117A231
     1C119131M17121534811231F24C718218222M17121531216222F2134IB116331432111232333C5112331331LL
     6318131N1G3134J312224A7A1B131N1A15322112N3124A13EB131WA2112531312431A4Q221I3O19112792677A
     23CWH12B88DW6211151O111A129125119A24W1O2R11111E1W5I15125WI8161DW6WE4161222P243G4D12261F1W
     911512h5142711142WA142W2142711142F1WQ142X55T3Q6XO262qI3XR7IDJ329IED13FWL217812B93A6A6B5A6
     XR752W3115X8AW044234216713WB25BWD4Q6B3WQ223WP11911286DA6A6EXOWHA4381T9C2W1426WP112311DWH8
     25F3X05WC2BB1D1741613215b6X2dU262W726281111111W02WM1F1E261J23191B5O7WIG22R1D3W3X0ZG4qFMBL
     WwE2h5325WE11512WP72FN9717171717171717W2Y1W3Q1XRCbSQWR6G1XO4Y85WC1Y11XO9WH1zjT3WO9g7KWG41
     AW12XI268c4KH13141P254A6WP8X6ACOD1W78PB1CU6WH1242221D1B471P1WA6222B318112A2W11WK113225211
     1OH28B6262697171WT4YO12143A6goCCN4WIdtKgP2YDW77C5511O151112121pUW1GGAMW41J14451ZB4a22W036
     2626233717D22C1Q1J121F2EW3YU534WE3XQ1D31WGWEZ7T3WIGR4W59U5W7AU1W64EWBa32A6W54W54W98WLBC1F
     17121B1F17123WLCf19MA8O61WB19X76211WD12312N1XA89WHJ125W23R5RW7WP4K2WGF4131TA9797X2W1W66C9
     WN3T2R5Q74C7XIXBWOWKDWK7WBCA6W78O82bMW01WB3122G689W8W98MB9MI44W7SKN911WNF74U1221CWI422214
     EP7A9W5519I8W413BWL9118421G1KBI1S324612X1711141F1B6WG13DA8218222M171215311114222231C7SA11
     211W71112F112311312W8WP82311L1113UWH1261121121248AaBWG1264212RW5WK821124BA6DJWC1112826A6K
     SR3112419NaUWG9121Y7XLC82128121O151264139AX882WB8414R1AW9624891623WFD129DXB7AXP13111XQW3E
     A691W7E116AT3W1P17121XD7121W7L19A66121W64211117A6WD4AcTJ249F1W5823NXO1FWJDyOY9YI15BbAXs1Y
     6DWYIH6PZZR5nPcYLUC33AWtTnB7W01A4XJ1A6U71AWH7FAA171L5JiTWRbCXT5P2PWDXD5WPBDX24E59cq4WAW1Y
     4YMeWL417121eCF1T321E48hOXhEYE5D397A2121ZXUd53j26NFHY2YNWTcTAW82WT53M27U4WULX431YTKCKCXP9
     PZBXN1X9122122241C11171X31428171S141511371fU2eD2n4WO4WJ81E17WaOW066dDX0ZMWEA72A42fAUIWD4A
     51jUS4AbSU2B41b6W01312172592c7714121F1bB29WHX6714A42uAX6XEWUb841R1211211A1411116141111113
     12112111111111121124171414111A1H53151HWL2dMWD4Y7CF2F1F1W6AaJWPTDWD4972E6ZUWVO3H3D3c16C41F
     C4WP8A6W98U2C42E9W8g38E2D3B3WQ114G2C4A7ZN1YAWX6Wij2W1ZmB2bV82ct2Fp2XmHmFWmIaZA5duR"),
  (["graphemeextend", "grext"],
    "tOYJdR7dFWE11121211XABWHLG1Y87262214W41URXTBWR991O4191315WC3WS9WBO1W1WO111484137A2T1WR111
     248191A2Q122WQ142422331U231B2WQ1451241K2M611WR112148173A2U1WS111C191W9131WO113531472B2T1W
     R12211331472B2S2WQ211248191A2T1XA141231181XJ127C8Y5129B7XB2R11111WOE15125B1W591Y94161222P
     243G4D12261F1rL3zG4S3T2U2X2217812B91WE311YO2W31YP3429163c2221WR1171111286A21WHWF2CK4WHA43
     W79C2W1426WP1123115WP822ZS31D17416132bCX2lS1b9W2Yb13ZH1Y3W1mR6YC2WVh141AW12XI2dO13141P251
     ZR2QID1W78PB11WD3WH1242221W51X562222C181WG1WK113225211WB281cL12141qXT1sOGGGgP2oG1c91ZP5Wr
     R31254W9341aA2nF4X35f72XF6X8BWI4YU1WNFWA122A3WI42271WU3W5518X01C2WL9118421Y23246121a2138L
     2WQ21111C191E735X51261121134311E2XN82311N1XJ12611211212cI1246212R2XN82112YD11128Y81112415
     dB912cS1A441ZK42241W1AW9624819623WFD12bC11311bF71611XKM271212YT631121711XA23111g62B2WL553
     N1amH16FgxPC33XnG5WS7WXP1X14XJ1B2pi42ZwOWF2NmF5368827U4ZO3XWQWO4WJ81E1M51FWhR71H271215Y71
     a57h31WU4lC4d62cQ1217251k97YG7vniAY3Z4cN"),
  (["hexdigit", "hex"],
    "WHA76Q6Xav0A76Q6"),
  (["idsbinaryoperator", "idsb"],
    "hsR22Al11"),
  (["idstrinaryoperator", "idst"],
    "hsT2"),
  (["idcontinue", "idc"],
    "WHA7Q411QWG1A111215N1W01jO4CE57111HYO12241165111K1XL1ZF152aB1W7216WA8WE111212118R44TB5XC4
     Y9182A1J21GWS2Y8EWN41212WFIS4B5O177XD1Z52A1J18222M1711342922248142152CA1112316422M1712121
     2211542233174117GB319131M1712152A131321F42A971318222M1712152922237342152A11G2163314321112
     32333C4533142161EAGD131N1G291314721312242AG418131N1A152913147253142A13CD131WK131554752AA6
     131I3O191127314611186A22DWR5F1AW8211151O111N2511171A24W11N26AB111114A1W54K1I1W591WQXC6XG2
     W711512WC1fN142711142WA142W2142711142F1WQ142X52399EGGXO263p02H1Q5XD3B7M9MBKCD1312CXM31422
     AW231B6XR7WC5X8AW01C4CAW925BWD4Q6BW6S4X11T2B6AD18E1W02CKXF3AH9CYNCWP8A3WI2B5WC23G31W85m72
     62W726281111111W02WM1711331734264D5317F2WI2J1S1D1GDWKD413CH1412A11266111111G245541HWAXtDc
     C69CW711512WP71FO97171717171717171W1lL3PF15254XO271Y25WC1Y1HW1WHGlGbvKX2sWNX5WF2dL3SKWH4A
     1YMW692YA2XKKWO41JWLCX8AA6O311WI2W5CT3X3EB6W01WO9E2A6N3XBO32G25A6262697171WC1E6YU122A6goC
     CN4WIdtKgP2YDW77C55C1D151112121YFW2gMIX22WNW9C4GGG32O3W151ZBJA7Q411QAXS36262623W4C1Q1J121
     F2EW3YUX7WMZC1Z6T3WIF1W0W1DU5WC5U2W54815WBa32A6W54W54W98WLCB1F17121B1F17123WLCf19MA8O61WB
     19X76211WD12312NAN9W0X3J12AMAQ6QW7WP62X241258131T2341W1T3TW481UPWNAMAJDIYHXBWOWKDWKDW98A6
     W7351Nd2WB1232G6WJW4A18W2W0MWBLRN9X9W0G9WT71DP7A6WM1A448W5219X7441D11W4I1W664X0711141F1A7
     WS5A6418222M1712151A22232161572735BA11211W71A11211418D2TXD5A44UX8118AaBWN29N6W3X331BAW7WQ
     7A6KSR2F4A67aUWSY8XCL82128121U1229CAX882WF2812RX1818XC31IXBYA8XQW2FA691WE19FAOU2M1EXB7121
     WD3112198A66121W612167A6WD4AcTN9H1WA35DBXN1XHyNY9YIHbAXs1Y4FWYIGMAZZR5nPcYLWRWtTnB7W01A6X
     H1A6U25BWO94CA9L5JiTWE3AbCX2W1P2PWDXD4WQ7HX2212B79cq4WAW1Y4YMeWL417121eCF1T321E48hOXhEYE5
     D397A32ZfNAlMWF2NmF5368827U4ZO3j9XN1X9122122241C11171X31428171S141511371fU2P1P1W01P1W01P1
     W01P1W01P182WJlGWO4WJ81E1M51FWZJW066bR71H2712155X0W21YJWE3E2A41fBW0HWRk5WBbSWCbBW01M82c77
     14121F1bBB7WAXE4AWcC41R1211211A141111614111111312112111111111121124171414111A1H53151HYl1A
     WX7Wij2W1ZmB2bV82ct2Fp2XmHmFWmIaZA5duRssiJcN"),
  (["idstart", "ids"],
    "X3Q6QWG1A1415N1W01jO4CE57111Z551224116113111K1XL1ZF8aB1W7216WAX9R44WEWCW421Y611F272A321G1
     1UTXRB1OW292415M419131NP7B5O17GWBWRWN31I17AFG48222M17113431G1D213E2A186422M17121212W0411J
     3G9131M17121531I1F2N1B8222M17121531U213F1H116331432111232333CM1WL8131N1G31Q31222U148131N1
     A1531U312F2H9131WA21G15383O65I3O191127WRWH12C7WR211151O111A12912511L4W11X181W5R5YMWCK1G64
     43132734DC1HW711512WC1fN142711142WA142W2142711142F1WQ142X5W6GGXO263p02H1Q5XD3B7IDJEIED13F
     WLW4141X5XR7WA115X8AW0WIU25BWD4QWNN9WMXK1Y0WGH8WNUD2AWDQW5WA3AW52B5WC23WA41612315b6X2dU26
     2W726281111111W02WM1711331734264D5317YN1D1GDY81412A11266111111G245541HWAXtDcC6432CW711512
     WP71GN9717171717171717mN3P975254XO451XS145WC1Y1HW1WHGlGbvKX2sWNX5WF2dL3GA2KWGGW02XIW892YA
     2XKKH13141NTWLEWJX063112BSANPT7WGS1G51AA51WAN318KN313WJ1132252111O32B73C6262697171WC1E6YM
     TgoCCN4WIdtKgP2YDW77C5511A1D151112121YFW2gMIX22WNW9CYN51ZBW5Q6QBXR36262623W4C1Q1J121F2EW3
     YUX7WMdJT3WIWGW1DU5W7AU2W54815WBa3IW54W54W98WLCB1F17121B1F17123WLCf19MA8O61WB19X76211WD12
     312NAN9W0X3J12AMAQ6QW7WP62X21F4131TWBT3TW481SRWNAMAJDIYHXBWOWKDWKDW5W7S9Nd2WB62G6WPTA18MW
     BIWFLRNCWMWQ221DWEW1PQW5T1218W431CWHE4L111W4I1PJ2X1711141F1A7WGW78222M17121531I1C5UA11211
     W711P111WDWMI4K3UWHK211aTWGWA4W5WHK1WSWCD1X9RW67aUWDYNX2W082128121OF111Y182W8G111S1AW971L
     1BWFJ1IXBbDW2W091W6H1WIUYJ7121W7L1P6121W1E1NWDdCJF11D1W3Z01XHyNY9YIHbAXs1Y4FWYIH6PZZR5nPc
     YLUWuQnB7W0HXHHUIWHG4W0L5JiTWEbPX2W1P2PWDXD51X4DX2211E59cq4WAW1Y4YMeWL417121eCF1T321E48hO
     XhEYE5D397Abc7XN1X9122122241C11171X31428171S141511371fU2P1P1W01P1W01P1W01P1W01P18WxFW066d
     DX0ZMWEA7G1fBUIWDkJScBU21bLW01312172592c7714121F1bBWSX671WcQ41R1211211A141111614111111312
     112111111111121124171414111A1H53151HZnIWij2W1ZmB2bV82ct2Fp2XmHmFWmIaZA5duR"),
  (["ideographic", "ideo"],
    "htI2P9E3WV4bvKX2qv5sqUgP2YDWVaG1D59cq4WAW1Y4YMej2hOpl0Wij2W1ZmB2bV82ct2Fp2XmHmFWmIaZA5duR"),
  (["joincontrol", "joinc"],
    "dlK2"),
  (["logicalorderexception", "loe"],
    "YtL5YU5XxA321Wco722112"),
  (["lowercase", "lower"],
    "Y4QWG1A141W5O1811111111111111111111111111111111111111111111111111111112111111111111111211
     11111111111111111111111111111111111111111111211113211121324121332121111121121121311122236
     12121111111111111111211111111111111111221113111111111111111111111111111111111111111111111
     11111111111117212211411111111X72W472U5Y31WC1113124I1RW41233111111111111111111111115112122
     WKWH1111111111111111111111111111111111911111111111111111111111111111111111111111111111111
     11121111111111112111111111111111111111111111111111111111111111111111111111111111111111111
     111111111111111111111111WHWAYV4WC14tG6Xd8911YOb6X3111111111111111111111111111111111111111
     11111111111111111111111111111111111111111111111111111111111111111111111111111111111111111
     11111111111111111111911111111111111111111111111111111111111111111111111111111111111111111
     11111111111111111111111111111986A88886A8888E2888888512613312842288A312YS1D1GDYG13231R1414
     1228441W2G41w6QWy2WH113211111141121831111111111111111111111111111111111111111111111111111
     11111111111111111111111111111111111111111111112711141CW71151WWcQ1111111111111111111111111
     11111111111111111111J111111111111111111111111113Z9111111111111311111111111111111111111111
     11111111111111111111111111111111111A11112111111111411121131111111111111111111151511111111
     111111141112111111111111111L41113vFWC1E6XIqYE7C5WYBQWdKW9ZCW5a0B1F1712jH1231WB19WfEWKZ1MX
     zMW1rt2W1WSPvzAQQ71IQQQ411171BQQQQQQQQQQQQQQQQQSSP16QP16QP16QP16QP1611WxFA1K66dDX0XeRW3"),
  (["math"],
    "WC1G3W01T111WE141W61W01sF321Q223m03by41R3B131D1E4L5B5X3D413245I1412A112661322213163E11X6O
     1612424W11162EdK84K2XS1UR11O1B7jB2CA46422235E11126B852WQ111T493fQX2d8lGWHL26WtgG1vH611a71
     G3T111T111Z7164YoH2WpkS1WfOXN1X9122122241C11171X31428171S141511371fU2eD2WJavL41R1211211A1
     41111614111111312112111111111121124171414111A1H53151HWL2XoF9"),
  (["noncharactercodepoint", "nchar"],
    "Xao0W1lU2Xbb02Xbb02Xbb02Xbb02Xbb02Xbb02Xbb02Xbb02Xbb02Xbb02Xbb02Xbb02Xbb02Xbb02Xbb02Xbb02"),
  (["patternsyntax", "patsyn"],
    "W2FA7Q411Q4W3711121112414131N1W01ddOO8F2J1AeQs7a5pAUWaGlGZ4hD34PF1WsoA2dD2"),
  (["patternwhitespace", "patws"],
    "95I1Y71dhC2O2"),
  (["quotationmark", "qmark"],
    "W3141Z71F1dfU8P2YrQ1jN4D3Wsx74b3141XS2"),
  (["radical"],
    "hh0Q1XRCbS"),
  (["regionalindicator", "ri"],
    "ZdoLQ"),
  (["sentenceterminal", "sterm"],
    "W21C1G1WhK1ZN3aP1WC3cT1WU11132eE2WuS2uF142tT1bC2a22WE151f42gD4a72A222T3b12X32z21N293YgN3e
     R1D1M2iQ1WVa21dM2cA131hA2XO2Y21ZS2ZN3ZK2d11qwC122WS132aE1C1G1X31XxE2Wf65WD4b32YO4Z33Z5261
     G2XQ212YF1eJ2YO2h125FYC2d13lL111d32XP2iH2rA2XC2pVL2Z91X32B1mQ2eH1ptA1cyU1"),
  (["softdotted", "sd"],
    "YC2bA1e21U1WL1K1fA1Y5111bpN1WK1D131Z81a21iI1bS2XzE1YovF2WJ2WJ2WJ2WJ2WJ2WJ2WJ2WJ2WJ2WJ2WJ2
     WJ2XdC1eQ2Q1"),
  (["terminalpunctuation", "term"],
    "W21A111B231vO181lH1WQ1XA1E113aP1WCB11cI2WN618W01dD2WeS2aH146f12uE8tT1Z03X92a2331W8422f42g
     D4a72A213T3b15X02z21N293YgN3eR1D141A11232iP2WVa12dL3cA5hA2XO2Y21ZR3ZN3Z31G2d11qwC122WQ314
     aE1A111B231X3121WYS1WH1WbB1bD1f02ZS6X66XR4zM5WD4b37YJ4Z33Z5261G2XQ5YF1eJ2YO3C2gH43FYC2d13
     lL111d32XP242iB3WE1pP2XC2WgL5noQ2Z91X33A1mQ2eG2ptA1cyT4"),
  (["unifiedideograph", "uideo"],
    "ivDbvKX2qv5szL21112A1111223Xcs8Wij2W1ZmB2bV82ct2Fp2ZqJaZA5duR"),
  (["uppercase", "upper"],
    "X3QY8N17W21111111111111111111111111111111111111111111111111111111211111111111111121111111
     11111111111111111111111111111111111111121111321112132412133212111112112112131112317121212
     11111111111111121111111111111111121211311111111111111111111111111111111111111111111111111
     111111117212211411111111eA1113181611311121H19W41233111111111111111111111115121122WKWH1111
     11111111111111111111111111111911111111111111111111111111111111111111111111111111111121111
     11111111211111111111111111111111111111111111111111111111111111111111111111111111111111111
     1111111111111112W7YV6W71151s9XOXdP16WC23fA11111111111111111111111111111111111111111111111
     11111111111111111111111111111111111111111111111111111111111111111111111111111111111111111
     11111111111119111111111111111111111111111111111111111111111111111111111111111111111111111
     11111111111111111111119886A88886B111111188XA4C4C4C5B4dE141332321356111111424A251QGJ1vCQWx
     BWHWH113211111141121831111111111111111111111111111111111111111111111111111111111111111111
     1111111111111111111111111111111811141WWeM111111111111111111111111111111111111111111111J11
     1111111111111111111111111ZB11111111111113111111111111111111111111111111111111111111111111
     1111111111111A111121111111141112111311111111111111111111515111111111111111411121111111111
     111111O1sbQQWdCW9ZCW5a1B1F1712Wv3WKa2MXzMW1rt2W1X2PvzBQQQQQQ11221222418QQQ2142817R2141511
     37RQQQQQQQQQQQUPW2PW2PW2PW2PW21Zn3W3XZGQ6Q6Q"),
  (["variationselector", "vs"],
    "bhH311WzcQGxof3cN"),
  (["whitespace", "wspace", "space"],
    "95I1Y71Q1auJ1XlDBT251WG1Za11"),
  (["xidcontinue", "xidc"],
    "WHA7Q411QWG1A111215N1W01jO4CE57111HYO12331165111K1XL1ZF152aB1W7216WA8WE111212118R44TB5XC4
     Y9182A1J21GWS2Y8EWN41212WFIS4B5O177XD1Z52A1J18222M1711342922248142152CA1112316422M1712121
     2211542233174117GB319131M1712152A131321F42A971318222M1712152922237342152A11G2163314321112
     32333C4533142161EAGD131N1G291314721312242AG418131N1A152913147253142A13CD131WK131554752AA6
     131I3O191127314611186A22DWR5F1AW8211151O111N2511171A24W11N26AB111114A1W54K1I1W591WQXC6XG2
     W711512WC1fN142711142WA142W2142711142F1WQ142X52399EGGXO263p02H1Q5XD3B7M9MBKCD1312CXM31422
     AW231B6XR7WC5X8AW01C4CAW925BWD4Q6BW6S4X11T2B6AD18E1W02CKXF3AH9CYNCWP8A3WI2B5WC23G31W85m72
     62W726281111111W02WM1711331734264D5317F2WI2J1S1D1GDWKD413CH1412A11266111111G245541HWAXtDc
     C69CW711512WP71FO97171717171717171W1lL3PF15254XO22231Y25WC1Y1HW1WHGlGbvKX2sWNX5WF2dL3SKWH
     4A1YMW692YA2XKKWO41JWLCX8AA6O311WI2W5CT3X3EB6W01WO9E2A6N3XBO32G25A6262697171WC1E6YU122A6g
     oCCN4WIdtKgP2YDW77C55C1D151112121YFW2ZF6c1IX22WNW9A6GGG32O3W2111311111111Z2JA7Q411QAXS362
     62623W4C1Q1J121F2EW3YUX7WMZC1Z6T3WIF1W0W1DU5WC5U2W54815WBa32A6W54W54W98WLCB1F17121B1F1712
     3WLCf19MA8O61WB19X76211WD12312NAN9W0X3J12AMAQ6QW7WP62X241258131T2341W1T3TW481UPWNAMAJDIYH
     XBWOWKDWKDW98A6W7351Nd2WB1232G6WJW4A18W2W0MWBLRN9X9W0G9WT71DP7A6WM1A448W5219X7441D11W4I1W
     664X0711141F1A7WS5A6418222M1712151A22232161572735BA11211W71A11211418D2TXD5A44UX8118AaBWN2
     9N6W3X331BAW7WQ7A6KSR2F4A67aUWSY8XCL82128121U1229CAX882WF2812RX1818XC31IXBYA8XQW2FA691WE1
     9FAOU2M1EXB7121WD3112198A66121W612167A6WD4AcTN9H1WA35DBXN1XHyNY9YIHbAXs1Y4FWYIGMAZZR5nPcY
     LWRWtTnB7W01A6XH1A6U25BWO94CA9L5JiTWE3AbCX2W1P2PWDXD4WQ7HX2212B79cq4WAW1Y4YMeWL417121eCF1
     T321E48hOXhEYE5D397A32ZfNAlMWF2NmF5368827U4ZO3j9XN1X9122122241C11171X31428171S141511371fU
     2P1P1W01P1W01P1W01P1W01P182WJlGWO4WJ81E1M51FWZJW066bR71H2712155X0W21YJWE3E2A41fBW0HWRk5WB
     bSWCbBW01M82c7714121F1bBB7WAXE4AWcC41R1211211A1411116141111113121121111111111211241714141
     11A1H53151HYl1AWX7Wij2W1ZmB2bV82ct2Fp2XmHmFWmIaZA5duRssiJcN"),
  (["xidstart", "xids"],
    "X3Q6QWG1A1415N1W01jO4CE57111Z551233116113111K1XL1ZF8aB1W7216WAX9R44WEWCW421Y611F272A321G1
     1UTXRB1OW292415M419131NP7B5O17GWBWRWN31I17AFG48222M17113431G1D213E2A186422M17121212W0411J
     3G9131M17121531I1F2N1B8222M17121531U213F1H116331432111232333CM1WL8131N1G31Q31222U148131N1
     A1531U312F2H9131WA21G15383O65I3O191127WRWH11D7WR211151O111A11A12511L4W11X181W5R5YMWCK1G64
     43132734DC1HW711512WC1fN142711142WA142W2142711142F1WQ142X5W6GGXO263p02H1Q5XD3B7IDJEIED13F
     WLW4141X5XR7WA115X8AW0WIU25BWD4QWNN9WMXK1Y0WGH8WNUD2AWDQW5WA3AW52B5WC23WA41612315b6X2dU26
     2W726281111111W02WM1711331734264D5317YN1D1GDY81412A11266111111G245541HWAXtDcC6432CW711512
     WP71GN9717171717171717mN3P975254XO631XS145WC1Y1HW1WHGlGbvKX2sWNX5WF2dL3GA2KWGGW02XIW892YA
     2XKKH13141NTWLEWJX063112BSANPT7WGS1G51AA51WAN318KN313WJ1132252111O32B73C6262697171WC1E6YM
     TgoCCN4WIdtKgP2YDW77C5511A1D151112121YFW2ZF6c1IX22WNW9AYQ111311111111Z2W5Q6QBWP2W03626262
     3W4C1Q1J121F2EW3YUX7WMdJT3WIWGW1DU5W7AU2W54815WBa3IW54W54W98WLCB1F17121B1F17123WLCf19MA8O
     61WB19X76211WD12312NAN9W0X3J12AMAQ6QW7WP62X21F4131TWBT3TW481SRWNAMAJDIYHXBWOWKDWKDW5W7S9N
     d2WB62G6WPTA18MWBIWFLRNCWMWQ221DWEW1PQW5T1218W431CWHE4L111W4I1PJ2X1711141F1A7WGW78222M171
     21531I1C5UA11211W711P111WDWMI4K3UWHK211aTWGWA4W5WHK1WSWCD1X9RW67aUWDYNX2W082128121OF111Y1
     82W8G111S1AW971L1BWFJ1IXBbDW2W091W6H1WIUYJ7121W7L1P6121W1E1NWDdCJF11D1W3Z01XHyNY9YIHbAXs1
     Y4FWYIH6PZZR5nPcYLUWuQnB7W0HXHHUIWHG4W0L5JiTWEbPX2W1P2PWDXD51X4DX2211E59cq4WAW1Y4YMeWL417
     121eCF1T321E48hOXhEYE5D397Abc7XN1X9122122241C11171X31428171S141511371fU2P1P1W01P1W01P1W01
     P1W01P18WxFW066dDX0ZMWEA7G1fBUIWDkJScBU21bLW01312172592c7714121F1bBWSX671WcQ41R1211211A14
     1111614111111312112111111111121124171414111A1H53151HZnIWij2W1ZmB2bV82ct2Fp2XmHmFWmIaZA5du
     R")]

def chars? (name : String) : Option CharTable :=
  (tables.find? fun entry => entry.1.contains name).map fun entry => .ofText entry.2

def alphabetic : CharTable := (chars? "alphabetic").getD ⟨#[]⟩

end RefLint.Unicode.Property
