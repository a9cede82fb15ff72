import RefLint.Regex.CharSet

/-!
# Regular expressions

An expression is matched by the places at which matches can end, so that no order of
attempts is involved. Sets of places are held as ascending lists. `found` searches a text
for a match at any place.
-/

namespace RefLint

set_option autoImplicit false

inductive Regex where
  /-- Matches without taking a character. -/
  | nothing
  | oneOf (set : CharSet)
  | textStart
  | textEnd
  | lineStart
  | lineEnd
  | sequence (first second : Regex)
  | either (first second : Regex)
  | repeated (body : Regex) (least : Nat) (most : Option Nat)

def mergePlaces : List Nat → List Nat → List Nat
  | [], others => others
  | places, [] => places
  | place :: places, other :: others =>
      if place < other then place :: mergePlaces places (other :: others)
      else if other < place then other :: mergePlaces (place :: places) others
      else place :: mergePlaces places others
termination_by places others => places.length + others.length

def withoutPlaces : List Nat → List Nat → List Nat
  | [], _ => []
  | places, [] => places
  | place :: places, other :: others =>
      if place < other then place :: withoutPlaces places (other :: others)
      else if other < place then withoutPlaces (place :: places) others
      else withoutPlaces places others
termination_by places others => places.length + others.length

namespace Regex

def advance (step : List Nat → List Nat) : Nat → List Nat → List Nat
  | 0, places => places
  | count + 1, places =>
      let next := step places
      if next.isEmpty || next == places then next else advance step count next

/-- Add to `places` what at most `count` steps reach from the newest of them. -/
def reach (step : List Nat → List Nat) : Nat → List Nat → List Nat → List Nat
  | 0, places, _ => places
  | count + 1, places, newest =>
      match withoutPlaces (step newest) places with
      | [] => places
      | further => reach step count (mergePlaces places further) further

def startsLine (text : Array Char) (place : Nat) : Bool :=
  place == 0 || text[place - 1]? == some '\n'

def endsLine (text : Array Char) (place : Nat) : Bool :=
  place == text.size || text[place]? == some '\n'

def ends (text : Array Char) : Regex → List Nat → List Nat
  | nothing, places => places
  | oneOf set, places =>
      (places.filter fun place => text[place]?.any set.contains).map (· + 1)
  | textStart, places => places.filter (· == 0)
  | textEnd, places => places.filter (· == text.size)
  | lineStart, places => places.filter (startsLine text)
  | lineEnd, places => places.filter (endsLine text)
  | sequence first second, places => ends text second (ends text first places)
  | either first second, places => mergePlaces (ends text first places) (ends text second places)
  | repeated body least most, places =>
      let started := advance (ends text body) least places
      let further :=
        match most with
        | some most => most - least
        | none => text.size
      reach (ends text body) further started started

def found (regex : Regex) (text : String) : Bool :=
  let chars := text.toList.toArray
  !(regex.ends chars (List.range (chars.size + 1))).isEmpty

end Regex

end RefLint
