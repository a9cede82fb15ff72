import RefLint.Json.Cursor
import RefLint.Number

/-!
# Numerals

A numeral without fraction and exponent is an integer as long as it lies in
the range that a document can hold. Any other numeral is a double: its digits
are gathered in a 64-bit significand, which is rounded to a double and then
scaled by one power of ten, each step rounding to nearest. Digits that do not
fit into the significand only count for the scale.
-/

namespace RefLint.Json

set_option autoImplicit false

def digitValue (c : Char) : Nat := c.toNat - '0'.toNat

def largestSignificand : Nat := Nat.pow 2 64 - 1

/-- Append digits while the significand fits; also tells how many were taken. -/
def appendDigits (significand : Nat) : List Nat → Nat × Nat
  | [] => (significand, 0)
  | digit :: rest =>
      if significand * 10 + digit ≤ largestSignificand then
        let (result, taken) := appendDigits (significand * 10 + digit) rest
        (result, taken + 1)
      else (significand, 0)

def largestPower : Nat := 308

/-- Divide by `10 ^ exponent` in steps of at most `largestPower`. -/
def scaleDown (value : Binary64) (exponent : Nat) : Binary64 :=
  if exponent ≤ largestPower then value.div (Binary64.powerOfTen exponent)
  else if value.isZero then value
  else scaleDown (value.div (Binary64.powerOfTen largestPower)) (exponent - largestPower)
termination_by exponent
decreasing_by simp [largestPower] at *; omega

/-- `± significand * 10 ^ exponent`, or `none` beyond the largest double. -/
def scaled (negative : Bool) (significand : Nat) (exponent : Int) : Option Binary64 :=
  let value := Binary64.ofNat significand
  let magnitude :=
    if exponent < 0 then some (scaleDown value (-exponent).toNat)
    else if exponent ≤ largestPower then
      let product := value.mul (Binary64.powerOfTen exponent.toNat)
      if product.isFinite then some product else none
    else if value.isZero then some value
    else none
  magnitude.map fun m => if negative then m.negate else m

/-- Read the digits that come next; `digits` holds those already read, last first. -/
def takeDigits (position : Position) (digits : List Nat) : List Char → List Nat × Cursor
  | [] => (digits.reverse, ⟨position, []⟩)
  | c :: rest =>
      if c.isDigit then takeDigits (position.after c) (digitValue c :: digits) rest
      else (digits.reverse, ⟨position, c :: rest⟩)

theorem take_digits_size_le (position : Position) (digits : List Nat) (text : List Char) :
    (takeDigits position digits text).2.size ≤ text.length := by
  induction text generalizing position digits with
  | nil => simp [takeDigits, Cursor.size]
  | cons c rest ih =>
      simp only [takeDigits]
      split
      · exact Nat.le_trans (ih _ _) (Nat.le_succ _)
      · simp [Cursor.size]

theorem take_digits_size_lt {cursor : Cursor} {c : Char} {rest : List Char}
    (next : cursor.rest = c :: rest) (position : Position) (digits : List Nat) :
    (takeDigits position digits rest).2.size < cursor.size :=
  Nat.lt_of_le_of_lt (take_digits_size_le position digits rest)
    (Cursor.size_lt_of_rest next position)

/-- One digit or more, else the numeral is not valid. -/
def readFraction (cursor : Cursor) : Reading cursor (List Nat) :=
  match h : cursor.rest with
  | [] => cursor.reject .endInValue
  | c :: rest =>
      if c.isDigit then
        let found := takeDigits (cursor.position.after c) [digitValue c] rest
        .ok (found.1, ⟨found.2, take_digits_size_lt h _ _⟩)
      else cursor.reject .invalidNumber

def largestExponent : Nat := Nat.pow 2 31 - 1

/-- The value of the exponent's digits, or the position at which they leave the range. -/
def exponentValue (position : Position) (value : Nat) : List Nat → Except Position Nat
  | [] => .ok value
  | digit :: rest =>
      let next : Position := ⟨position.line, position.column + 1⟩
      if value * 10 + digit ≤ largestExponent then exponentValue next (value * 10 + digit) rest
      else .error next

structure Exponent where
  negative : Bool
  digits : List Nat
  /-- Where the second digit is expected. -/
  position : Position

def readExponent (cursor : Cursor) : Reading cursor Exponent :=
  match h : cursor.rest with
  | '+' :: rest =>
      (readExponentDigits false ⟨cursor.position.after '+', rest⟩).from (by simp [Cursor.size, h])
  | '-' :: rest =>
      (readExponentDigits true ⟨cursor.position.after '-', rest⟩).from (by simp [Cursor.size, h])
  | _ => readExponentDigits false cursor
where
  readExponentDigits (negative : Bool) (cursor : Cursor) : Reading cursor Exponent :=
    match h : cursor.rest with
    | [] => cursor.fail .endInValue
    | c :: rest =>
        if c.isDigit then
          let found := takeDigits (cursor.position.after c) [digitValue c] rest
          .ok (⟨negative, found.1, cursor.position⟩, ⟨found.2, take_digits_size_lt h _ _⟩)
        else .error ⟨.invalidNumber, cursor.position.afterFirstByte c⟩

def ofScaled (negative : Bool) (significand : Nat) (exponent : Int) (position : Position) :
    Except SyntaxError Number :=
  match scaled negative significand exponent with
  | some value => .ok (.float value)
  | none => .error ⟨.numberOutOfRange, position⟩

def withExponent (negative : Bool) (significand : Nat) (scale : Int) (exponent : Exponent)
    (position : Position) : Except SyntaxError Number :=
  match exponentValue exponent.position 0 exponent.digits with
  | .ok value =>
      ofScaled negative significand (if exponent.negative then scale - value else scale + value)
        position
  | .error overflow =>
      if significand ≠ 0 && !exponent.negative then .error ⟨.numberOutOfRange, overflow⟩
      else .ok (.float (.zero negative))

def wholeNumber (negative : Bool) (significand : Nat) : Number :=
  if !negative then .integer significand
  else if significand = 0 || significand > Nat.pow 2 63 then
    .float (Binary64.ofNat significand).negate
  else .integer (-significand)

def startsExponent : List Char → Bool
  | c :: _ => c == 'e' || c == 'E'
  | [] => false

def readNumeralTail (negative : Bool) (digits : List Nat) (cursor : Cursor) :
    Except SyntaxError (Number × { next : Cursor // next.size ≤ cursor.size }) :=
  let (significand, taken) := appendDigits 0 digits
  let dropped := digits.length - taken
  match h : cursor.rest with
  | '.' :: rest =>
      let start : Cursor := ⟨cursor.position.after '.', rest⟩
      match readFraction start with
      | .error error => .error error
      | .ok (fraction, after) => do
          let (significand, taken) := appendDigits significand fraction
          let scale : Int := (dropped : Int) - taken
          have shorter : after.cursor.size < cursor.size := by
            have := after.advanced
            simp only [start, Cursor.size] at this
            simp only [Cursor.size, h, List.length_cons]
            omega
          match g : after.cursor.rest with
          | [] => do
              let number ← ofScaled negative significand scale after.cursor.position
              pure (number, ⟨after.cursor, Nat.le_of_lt shorter⟩)
          | c :: rest =>
              if startsExponent (c :: rest) then
                let start : Cursor := ⟨after.cursor.position.after c, rest⟩
                match readExponent start with
                | .error error => .error error
                | .ok (exponent, last) => do
                    let number ←
                      withExponent negative significand scale exponent last.cursor.position
                    pure (number, ⟨last.cursor, by
                      have := last.advanced
                      simp only [start, Cursor.size] at this
                      simp only [Cursor.size, g, List.length_cons] at shorter
                      simp only [Cursor.size]
                      omega⟩)
              else do
                let number ← ofScaled negative significand scale after.cursor.position
                pure (number, ⟨after.cursor, Nat.le_of_lt shorter⟩)
  | c :: rest =>
      if startsExponent (c :: rest) then
        let start : Cursor := ⟨cursor.position.after c, rest⟩
        match readExponent start with
        | .error error => .error error
        | .ok (exponent, last) => do
            let number ← withExponent negative significand dropped exponent last.cursor.position
            pure (number, ⟨last.cursor, by
              have := last.advanced
              simp only [start, Cursor.size] at this
              simp only [Cursor.size, h, List.length_cons]
              omega⟩)
      else whole significand dropped
  | [] => whole significand dropped
where
  whole (significand dropped : Nat) :
      Except SyntaxError (Number × { next : Cursor // next.size ≤ cursor.size }) := do
    if dropped = 0 then pure (wholeNumber negative significand, ⟨cursor, Nat.le_refl _⟩)
    else
      let number ← ofScaled negative significand dropped cursor.position
      pure (number, ⟨cursor, Nat.le_refl _⟩)

/-- A numeral after its sign. A leading zero stands alone. -/
def readNumeral (negative : Bool) (cursor : Cursor) :
    Except SyntaxError (Number × Advanced cursor) :=
  match h : cursor.rest with
  | [] => cursor.fail .endInValue
  | c :: rest =>
      let start : Cursor := ⟨cursor.position.after c, rest⟩
      have shorter : start.size < cursor.size := Cursor.size_lt_of_rest h _
      if c = '0' then
        if rest.head?.any Char.isDigit then start.reject .invalidNumber
        else do
          let (number, next) ← readNumeralTail negative [0] start
          pure (number, ⟨next.1, Nat.lt_of_le_of_lt next.2 shorter⟩)
      else if c.isDigit then do
        let found := takeDigits start.position [digitValue c] rest
        let (number, next) ← readNumeralTail negative found.1 found.2
        pure (number, ⟨next.1, Nat.lt_of_le_of_lt
          (Nat.le_trans next.2 (take_digits_size_le _ _ _)) shorter⟩)
      else .error ⟨.invalidNumber, cursor.position.afterFirstByte c⟩

end RefLint.Json
