/-!
# Dates and times

Dates are written `year-month-day` and times `hour:minute:second` with the distance from
universal time. A minute may have a second more where it is the last one of a day of
universal time.
-/

namespace RefLint.Clock

set_option autoImplicit false

def number? (digits : List Char) : Option Nat :=
  if digits.all Char.isDigit then
    some (digits.foldl (fun value c => 10 * value + (c.toNat - '0'.toNat)) 0)
  else none

def isLeapYear (year : Nat) : Bool := (year % 4 == 0 && year % 100 != 0) || year % 400 == 0

def daysIn (year month : Nat) : Nat :=
  if month = 2 then if isLeapYear year then 29 else 28
  else if month = 4 || month = 6 || month = 9 || month = 11 then 30
  else 31

def isDate (text : List Char) : Bool :=
  match text with
  | [y1, y2, y3, y4, '-', m1, m2, '-', d1, d2] =>
      match number? [y1, y2, y3, y4], number? [m1, m2], number? [d1, d2] with
      | some year, some month, some day =>
          1 ≤ month && month ≤ 12 && 1 ≤ day && day ≤ daysIn year month
      | _, _, _ => false
  | _ => false

def minutesOfDay : Int := 1440

/-- Minutes ahead of universal time. -/
def offset? : List Char → Option Int
  | ['Z'] => some 0
  | ['z'] => some 0
  | [sign, h1, h2, ':', m1, m2] =>
      match number? [h1, h2], number? [m1, m2] with
      | some hours, some minutes =>
          if 23 < hours || 59 < minutes then none
          else if sign = '+' then some (60 * hours + minutes)
          else if sign = '-' then some (-(60 * hours + minutes))
          else none
      | _, _ => none
  | _ => none

/-- What follows the digits of a fraction of a second, if there is a fraction it has digits. -/
def afterFraction? : List Char → Option (List Char)
  | '.' :: c :: rest => if c.isDigit then some (rest.dropWhile Char.isDigit) else none
  | '.' :: [] => none
  | rest => some rest

def isTime (text : List Char) : Bool :=
  match text with
  | h1 :: h2 :: ':' :: m1 :: m2 :: ':' :: s1 :: s2 :: rest =>
      match number? [h1, h2], number? [m1, m2], number? [s1, s2],
          (afterFraction? rest).bind offset? with
      | some hour, some minute, some second, some offset =>
          let universal := (60 * (hour : Int) + minute - offset) % minutesOfDay
          hour ≤ 23 && minute ≤ 59
            && (second ≤ 59 || (second == 60 && universal == minutesOfDay - 1))
      | _, _, _, _ => false
  | _ => false

def isDateTime (text : List Char) : Bool :=
  match text.dropWhile fun c => c ≠ 'T' && c ≠ 't' with
  | _ :: time => isDate (text.takeWhile fun c => c ≠ 'T' && c ≠ 't') && isTime time
  | [] => false

end RefLint.Clock
