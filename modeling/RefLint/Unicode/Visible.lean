import RefLint.Unicode.Table

/-!
# Characters without a visible form of their own

Controls, blanks other than the space, invisible and unassigned characters, those for private
use, and marks that join the character before them.
-/

namespace RefLint.Unicode

set_option autoImplicit false

def invisibleChars : CharTable := .ofText
  "0W1Y2W3C1o5YJ82647111K1c77aB1W72WJ23WF11121219R46HAB11WFLG1Y88162214W1211UTXRB1EWC973O41913
   17F1P511B5W1GWBWQWO111484137A2T1218222M1711343112622211D2134O5116422M1712121243O4117A2311C1
   19131M17121534811231F24C718218222M17121531216222F2134IB116331432111232333C5112331331LL63181
   31N1G3134J312224A7A1B131N1A15322112N3124A13EB131WA2112531312431A4Q221I3O19112792677A23CWH12
   B88DW6211151O111A129125119A24W1O2R11111E1W5I15125WI8161DW6WE4161222P243G4D12261F1W911512ZJ2
   cF142711142WA142W2142711142F1WQ142X55T3Q6XO262pK1S3XR7IDJ329IED13FWL217812B93A6A6B5A6XR752W
   3115X8AW044234216713WB25BWD4Q6B3WQ223WP11911286DA6A6EXOWHA4381T9C2W1426WP112311DWH825F3X05W
   C2BB1D1741613215b6X2dU262W726281111111W02WM1F1E261J2319HO8WGH22R1D3W3X0ZG4qFMBLWwE2h5325WE1
   1512WP72FN9717171717171717W2Y1W3Q1XRCbSQG1WA6G1XO4Y85WC1WK1WB1XO9WH1zjT3WO9g7KWG41AW12XI268
   c4KH13141P254A6WP8X6ACOD1W78PB1CU6WH1242221D1B471P1WA6222B318112A2W11WK1132252111OH28B62626
   97171WT4YO12143A6goCCN4WIdtKgP2YDW77C5511O151112121pUW1GGAMW41J14451ZB4a41U362626233717D22C
   1Q1J121F2EW3YU534WE3XQ1D31WGWEZ7T3WIGR4W59U5W7AU1W64EWBa32A6W54W54W98WLBC1F17121B1F17123WLC
   f19MA8O61WB19X76211WD12312N1XA89WHJ125W23R5RW7WP4K2WGF4131TA9797X2W1W66C9WN3T2R5Q74C7XIXBWO
   WKDWK7WBCA6W78O82bMW01WB3122G689W8W98MB9MI44W7SKN911WNF74U1221CWI422214EP7A9W5519I8W413BWL9
   118421G1KBI1S324612X1711141F1B6WG13DA8218222M171215311114222231C7SA11211W71112F112311312W8W
   P82311L1113UWH1261121121248AaBWG1264212RW5WK821124BA6DJWC1112826A6KSR3112419NaUWG9121Y7XLC8
   2128121O151264139AX882WB8414R1AW9624891623WFD129DXB7AXP13111XQW3EA691W7E116AT3W1P17121XD712
   1W7L19A66121W64211117A6WD4AcTJ249F1W5823NXO1FWJDyOY9YI15BbAXs1Y6DWYIH6PZZR5nPcYLUC33AWtTnB7
   W01A4XJ1A6U71AWH7FAA171L5JiTWRbCXT5P2PWDXD5WPBDX24E59cq4WAW1Y4YMeWL417121eCF1T321E48hOXhEYE
   5D397A2121ZXUd53j26NFHY2YNWTcTAW82WT53M27U4WULX431YTKCKCXP9PZBXN1X9122122241C11171X31428171
   S141511371fU2eD2n4WO4WJ81E17WaOW066dDX0ZMWEA72A42fAUIWD4A51jUS4AbSU2B41b6W01312172592c77141
   21F1bB29WHX6714A42uAX6XEWUb841R1211211A141111614111111312112111111111121124171414111A1H5315
   1HWL2dMWD4Y7CF2F1F1W6AaJWPTDWD4972E6ZUWVO3H3D3c16C41FC4WP8A6W98U2C42E9W8g38E2D3B3WQ114G2C4A
   7ZN1YAWX6Wij2W1ZmB2bV82ct2Fp2XmHmFWmIaZA5duRzfsH"

/-- Whether a character can be told from others by its look alone. -/
def isVisible (c : Char) : Bool := !invisibleChars.holds c

end RefLint.Unicode
