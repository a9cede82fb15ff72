import RefLint.HexDigit
import RefLint.Number

/-!
# What a plain scalar means

A scalar without quotes and tag is tried in turn as null, a truth value, an
integer and a float; it is a string when none of them fits.
-/

namespace RefLint.Yaml

set_option autoImplicit false

inductive Scalar where
  | null
  | bool (value : Bool)
  | integer (value : Int)
  | float (value : Binary64)
  | string (text : String)

def isNull (text : String) : Bool := text ∈ ["null", "Null", "NULL", "~"]

def bool? (text : String) : Option Bool :=
  if text ∈ ["true", "True", "TRUE"] then some true
  else if text ∈ ["false", "False", "FALSE"] then some false
  else none

def digitsValue? (base : Nat) (digits : List Char) : Option Nat :=
  if digits.isEmpty then none
  else do
    let values ← digits.mapM hexDigit?
    if values.all (· < base) then some (values.foldl (fun value digit => value * base + digit) 0)
    else none

def withoutSign : List Char → List Char
  | '+' :: rest => rest
  | '-' :: rest => rest
  | text => text

/-- A zero in front of further digits; such a scalar is no number. -/
def hasLeadingZero (text : List Char) : Bool :=
  match withoutSign text with
  | '0' :: rest => !rest.isEmpty && rest.all Char.isDigit
  | _ => false

/-- The magnitude of an integer without its sign: `0x`, `0o`, `0b` or decimal. -/
def magnitude? : List Char → Option Nat
  | '0' :: 'x' :: digits => digitsValue? 16 digits
  | '0' :: 'o' :: digits => digitsValue? 8 digits
  | '0' :: 'b' :: digits => digitsValue? 2 digits
  | digits => digitsValue? 10 digits

def anyInteger? (text : List Char) : Option Int :=
  if hasLeadingZero text then none
  else
    match text with
    | '-' :: rest => (magnitude? rest).map fun n => -(n : Int)
    | '+' :: rest => (magnitude? rest).map fun n => (n : Int)
    | rest => (magnitude? rest).map fun n => (n : Int)

inductive IntegerReading where
  | integer (value : Int)
  /-- An integer that fits into 128 bits only; a document cannot hold it. -/
  | tooWide
  /-- No integer, or one so wide that it is read as a float. -/
  | none

def readInteger (text : List Char) : IntegerReading :=
  match anyInteger? text with
  | some value =>
      if Number.smallestInteger ≤ value && value ≤ Number.largestInteger then .integer value
      else if -(Int.pow 2 127) ≤ value && value < Int.pow 2 128 then .tooWide
      else .none
  | Option.none => .none

/-- A decimal numeral without sign: digits with at most one point, and perhaps an exponent. -/
def unsignedFloat? (negative : Bool) (text : List Char) : Option Binary64 := do
  let whole := text.takeWhile Char.isDigit
  let afterWhole := text.dropWhile Char.isDigit
  let (fraction, afterFraction) :=
    match afterWhole with
    | '.' :: rest => (rest.takeWhile Char.isDigit, rest.dropWhile Char.isDigit)
    | rest => ([], rest)
  let digits ← digitsValue? 10 (whole ++ fraction)
  let exponent ←
    match afterFraction with
    | [] => some 0
    | mark :: rest =>
        if mark == 'e' || mark == 'E' then
          match rest with
          | '-' :: rest => (digitsValue? 10 rest).map fun n => -(n : Int)
          | '+' :: rest => (digitsValue? 10 rest).map fun n => (n : Int)
          | rest => (digitsValue? 10 rest).map fun n => (n : Int)
        else none
  let value := Binary64.ofDecimal negative digits (exponent - fraction.length)
  if value.isFinite then some value else none

def float? (text : String) : Option Binary64 :=
  let unplussed :=
    match text.toList with
    | '+' :: rest => rest
    | rest => rest
  if String.ofList unplussed ∈ [".inf", ".Inf", ".INF"] then some (.infinity false)
  else if text ∈ ["-.inf", "-.Inf", "-.INF"] then some (.infinity true)
  else if text ∈ [".nan", ".NaN", ".NAN"] then some .notANumber
  else
    match text.toList with
    | '+' :: rest => unsignedFloat? false rest
    | '-' :: rest => unsignedFloat? true rest
    | rest => unsignedFloat? false rest

/-- The meaning of a plain scalar; `none` for an integer that no document can hold. -/
def Scalar.ofPlain? (text : String) : Option Scalar :=
  if text = "" || isNull text then some .null
  else
    match bool? text with
    | some value => some (.bool value)
    | none =>
        match readInteger text.toList with
        | .integer value => some (.integer value)
        | .tooWide => none
        | .none =>
            if hasLeadingZero text.toList then some (.string text)
            else
              match float? text with
              | some value => some (.float value)
              | none => some (.string text)

end RefLint.Yaml
