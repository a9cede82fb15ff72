import RefLint.Unicode.Table

/-!
# Characters that differ in case only

The characters are grouped so that two of them differ in case only exactly when they
stand in one group. A character that stands in no group is like no other one.
-/

namespace RefLint.Unicode.Folding

set_option autoImplicit false

/-- Cut numbers into groups at each zero, last group first; `group` is the one being read,
and `place` is the character before. -/
def groupsFrom (leader place : Nat) (group : List Nat) : List Nat → List (List Nat)
  | [] => []
  | distance :: rest =>
      if distance = 0 && !group.isEmpty then group :: groupsFrom leader leader [] rest
      else if group.isEmpty then
        groupsFrom (leader + distance) (leader + distance) [leader + distance] rest
      else groupsFrom leader (place + distance) ((place + distance) :: group) rest

def groups : List (List Nat) := groupsFrom 0 0 [] (numbersOf
  "X3W101W101W101W101W101W101W101W101W101W101W1drD01W101W101W101W101W101W101W101W1dK01W101W101
   W101W101W101W101W10XTsUW10BW101W101W101W101W101W1dnG01W101W101W101W101W101W101W101W101W101W
   101W101W101W101W101W101W101W102W101W101W101W101W101W101W101cxK0W1YS011021021021021021021021
   0210210210210210210210210210210210210210210210210410210210310210210210210210210210310210210
   2102102102102102102102102102102102102102102102102102102102103102102103b901bO01102102bK01102
   bJ01bJ01103XH01bG01bH01102bJ01bL01Y401bP01bN01102a801WidT01bP01bR01Z601bS01102102102c101102
   c103102c101102c001c001102102c201104103WP051103110311031021021021021021021021031021021021021
   0210210210210311031041021021021021021021021021021021021021021021021021021021021041021021021
   02102102102102108gc701103gc401gcR01gcR01103X701X901102102102102102gbQ01gbN01gbP0AWiW405WiW0
   03WiWS01WhzR01WiVO04WiVO01gaH01WiVL05gaN0Cga105WiVN05WhzT0MWhz801Whz50aCXMW1cjC0WC102104105
   Z601Z601Z602YN07W702W601W601W602X202X101X101clC01W101W1U01W101W101W1X201W101W101W1PW402W1WN
   01W102W101W101W101W1M01W1WH02W0101W101W101W1F01W101W101W1cuF01W101W105ckR0W0809102102102102
   102102102102102102102104705103106XI01XI01XI01XI01XI01XI01XI01XI01XI01XI01XI01XI01XI01XI01XI
   01XI01W101W101W1bjM01W101W1bjL01W101W101W101W101W101W101W101W101W101W1bjC01W101W101W1bjA01W
   1bjA101W101W101W101W101W101W101W101W1bj401W101W101W101W101W10WI1021biB021021021021021021021
   0210210210210210210210210A10210210210210210210210210210210210210210210210210210210210210210
   2102102102102102F01102102102102102102103102102102102102102102102102102102102102102102102102
   1021021021021021021021021021021021021021021021021021021021021021021021021021021021021021021
   03WH01WH01WH01WH01WH01WH01WH01WH01WH01WH01WH01WH01WH01WH01WH01WH01WH01WH01WH01WH01WH01WH01W
   H01WH01WH01WH01WH01WH01WH01WH01WH01WH01WH01WH01WH01WH01WH01WH0YV7cmA01cmA01cmA01cmA01cmA01c
   mA01cmA01cmA01cmA01cmA01cmA01cmA01cmA01cmA01cmA01cmA01cmA01cmA01cmA01cmA01cmA01cmA01cmA01cm
   A01cmA01cmA01cmA01cmA01cmA01cmA01cmA01cmA01cmA01cmA01cmA01cmA01cmA01cmA02cmA06cmA03YZ101YZ1
   01YZ101YZ101YZ101YZ101YZ101YZ101YZ101YZ101YZ101YZ101YZ101YZ101YZ101YZ101YZ101YZ101YZ101YZ10
   1YZ101YZ101YZ101YZ101YZ101YZ101YZ101YZ101YZ101YZ101YZ101YZ101YZ101YZ101YZ101YZ101YZ101YZ101
   YZ101YZ101YZ101YZ101YZ103YZ101YZ101YZ10qMWeiL01WeiL01WeiL01WeiL01WeiL01WeiL01WeiL01WeiL01We
   iL01WeiL01WeiL01WeiL01WeiL01WeiL01WeiL01WeiL01WeiL01WeiL01WeiL01WeiL01WeiL01WeiL01WeiL01Wei
   L01WeiL01WeiL01WeiL01WeiL01WeiL01WeiL01WeiL01WeiL01WeiL01WeiL01WeiL01WeiL01WeiL01WeiL01WeiL
   01WeiL01WeiL01WeiL01WeiL01WeiL01WeiL01WeiL01WeiL01WeiL01WeiL01WeiL01WeiL01WeiL01WeiL01WeiL0
   1WeiL01WeiL01WeiL01WeiL01WeiL01WeiL01WeiL01WeiL01WeiL01WeiL01WeiL01WeiL01WeiL01WeiL01WeiL01
   WeiL01WeiL01WeiL01WeiL01WeiL01WeiL01WeiL01WeiL01WeiL01WeiL01WeiL0180180180180180180XdPWaqJ1
   0110cNWasN04Yz10HWauD0YL1021021021021021021021021021021021021021021021021021021021021021021
   021021021021021021021021021021021021021021021021021021021021021021021021021021WR02102102102
   10210210210210210210210210210210210210210210210210210210210210210210C1021021021021021021021
   0210210210210210210210210210210210210210210210210210210210210210210210210210210210210210210
   210210210210210210210210210210280180180180180180180180980180180180180180B801801801801801801
   80180980180180180180180180180980180180180180180C802802802809801801801801801801801809XC01XC0
   1XO01XO01XO01XO01Y701Y701Z401Z401YJ01YJ01Z201Z203801801801801801801801809801801801801801801
   80180980180180180180180180180980180290G90D80180F80180470E90f9S0WFG01G01G01G01G01G01G01G01G0
   1G01G01G01G01G01G01G0K10vDQ01Q01Q01Q01Q01Q01Q01Q01Q01Q01Q01Q01Q01Q01Q01Q01Q01Q01Q01Q01Q01Q0
   1Q01Q01Q01Q0WxCWH01WH01WH01WH01WH01WH01WH01WH01WH01WH01WH01WH01WH01WH01WH01WH01WH01WH01WH01
   WH01WH01WH01WH01WH01WH01WH01WH01WH01WH01WH01WH01WH01WH01WH01WH01WH01WH01WH01WH01WH01WH01WH0
   1WH01WH01WH01WH01WH01WH0WI10710210210710310B10210210210210210210210210210210210210210210210
   2102102102102102102102102102102102102102102102102102102102102102102102102102102102102102102
   10210210210910210510WWeN10210210210210410210210210210210210210210210210210210210210210210K1
   0210210210210210210210210210210210210210ZC1021021021021021021041021021021021021021021021021
   0210210210210210210210210210210210210210210210210210210210210210B10210310210210210210510510
   2102WH0210210210210210210210210210210ByT011021021021021021021021051021031021021021021021021
   0210R10rYT10WXTW101W101W101W101W101W101W101W101W101W101W101W101W101W101W101W101W101W101W101
   W101W101W101W101W101W101W10WdDW901W901W901W901W901W901W901W901W901W901W901W901W901W901W901W
   901W901W901W901W901W901W901W901W901W901W901W901W901W901W901W901W901W901W901W901W901W901W901
   W901W90ZDW901W901W901W901W901W901W901W901W901W901W901W901W901W901W901W901W901W901W901W901W9
   01W901W901W901W901W901W901W901W901W901W901W901W901W901W901W90a2W801W801W801W801W801W801W801
   W801W801W801W802W801W801W801W801W801W801W801W801W801W801W801W801W801W801W802W801W801W801W80
   1W801W801W802W801W80Wv4X201X201X201X201X201X201X201X201X201X201X201X201X201X201X201X201X201
   X201X201X201X201X201X201X201X201X201X201X201X201X201X201X201X201X201X201X201X201X201X201X20
   1X201X201X201X201X201X201X201X201X201X201X20a3W101W101W101W101W101W101W101W101W101W101W101W
   101W101W101W101W101W101W101W101W101W101W10XzNW101W101W101W101W101W101W101W101W101W101W101W1
   01W101W101W101W101W101W101W101W101W101W101W101W101W101W101W101W101W101W101W101W10rt3W101W10
   1W101W101W101W101W101W101W101W101W101W101W101W101W101W101W101W101W101W101W101W101W101W101W1
   01W101W101W101W101W101W101W10X3R01R01R01R01R01R01R01R01R01R01R01R01R01R01R01R01R01R01R01R01
   R01R01R01R01R0WWmPW301W301W301W301W301W301W301W301W301W301W301W301W301W301W301W301W301W301W
   301W301W301W301W301W301W301W301W301W301W301W301W301W301W301W30")

/-- The characters that stand in a group, in ascending order, each with its group. -/
def table : Array (Nat × List Nat) :=
  let entries := groups.flatMap fun group => group.map fun code => (code, group)
  (entries.mergeSort fun x y => x.1 ≤ y.1).toArray

def codes : Array Nat := table.map (·.1)

def alike (c : Char) : List Char :=
  let count := countWithin codes c.toNat 0 codes.size
  match table[count - 1]? with
  | some (code, group) => if code = c.toNat then group.map Char.ofNat else [c]
  | none => [c]

end RefLint.Unicode.Folding
