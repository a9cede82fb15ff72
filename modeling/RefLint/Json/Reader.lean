import RefLint.Json.Numeral
import RefLint.Json.Text
import RefLint.Value

/-!
# Reading JSON

One value, with blanks around it. A key that occurs twice in a mapping keeps
its first place and its last value. Nesting is bounded, so a reader of deeply
nested text answers with an error.
-/

namespace RefLint.Json

set_option autoImplicit false

/-- The deepest nesting of lists and mappings is one less than this. -/
def nestingLimit : Nat := 128

def readLetters (cursor : Cursor) (value : Value) : List Char → Except SyntaxError
    (Value × { next : Cursor // next.size ≤ cursor.size })
  | [] => .ok (value, ⟨cursor, Nat.le_refl _⟩)
  | letter :: letters =>
      match h : cursor.rest with
      | [] => cursor.fail .endInValue
      | c :: rest =>
          if c = letter then
            match readLetters ⟨cursor.position.after c, rest⟩ value letters with
            | .error error => .error error
            | .ok (value, next) =>
                .ok (value, ⟨next.1, Nat.le_of_lt
                  (Nat.lt_of_le_of_lt next.2 (Cursor.size_lt_of_rest h _))⟩)
          else .error ⟨.expectedIdent, cursor.position.afterFirstByte c⟩

def readColon (cursor : Cursor) : Reading cursor Unit :=
  let ahead := cursor.skipBlanks
  match h : ahead.rest with
  | [] => ahead.reject .endInObject
  | c :: rest =>
      if c = ':' then
        .ok ((), ⟨⟨ahead.position.after c, rest⟩,
          Nat.lt_of_lt_of_le (Cursor.size_lt_of_rest h _) cursor.skip_blanks_size_le⟩)
      else ahead.reject .expectedColon

mutual

/-- Read one value; `depth` is the number of levels that may still be opened. -/
def readValue (depth : Nat) (cursor : Cursor) : Reading cursor Value :=
  let ahead := cursor.skipBlanks
  have reached : ahead.size ≤ cursor.size := cursor.skip_blanks_size_le
  match h : ahead.rest with
  | [] => ahead.reject .endInValue
  | c :: rest =>
      let next : Cursor := ⟨ahead.position.after c, rest⟩
      have shorter : next.size < cursor.size :=
        Nat.lt_of_lt_of_le (Cursor.size_lt_of_rest h _) reached
      let letters (value : Value) (text : List Char) : Reading cursor Value :=
        (readLetters next value text).map fun (value, after) =>
          (value, ⟨after.1, Nat.lt_of_le_of_lt after.2 shorter⟩)
      if c = 'n' then letters .null ['u', 'l', 'l']
      else if c = 't' then letters (.bool true) ['r', 'u', 'e']
      else if c = 'f' then letters (.bool false) ['a', 'l', 's', 'e']
      else if c = '"' then
        ((readText next []).from (Nat.le_of_lt shorter)).map fun (text, after) =>
          (.string text, after)
      else if c = '[' then
        match depth with
        | 0 => ahead.reject .recursionLimit
        | depth + 1 => (readItems depth next true []).from (Nat.le_of_lt shorter)
      else if c = '{' then
        match depth with
        | 0 => ahead.reject .recursionLimit
        | depth + 1 => (readMembers depth next true []).from (Nat.le_of_lt shorter)
      else if c = '-' then
        (Reading.from (Nat.le_of_lt shorter) (readNumeral true next)).map fun (number, after) =>
          (.number number, after)
      else if c.isDigit then
        (Reading.from reached (readNumeral false ahead)).map fun (number, after) =>
          (.number number, after)
      else ahead.reject .expectedValue
termination_by (cursor.size, 0)
decreasing_by
  · exact Prod.Lex.left _ _ shorter
  · exact Prod.Lex.left _ _ shorter

/-- Read the items of a list; `read` holds those already read, last first. -/
def readItems (depth : Nat) (cursor : Cursor) (first : Bool) (read : List Value) :
    Reading cursor Value :=
  let ahead := cursor.skipBlanks
  have reached : ahead.size ≤ cursor.size := cursor.skip_blanks_size_le
  match h : ahead.rest with
  | [] => ahead.reject .endInList
  | c :: rest =>
      let next : Cursor := ⟨ahead.position.after c, rest⟩
      have shorter : next.size < cursor.size :=
        Nat.lt_of_lt_of_le (Cursor.size_lt_of_rest h _) reached
      if c = ']' then .ok (.array read.reverse, ⟨next, shorter⟩)
      else if first then
        match readValue depth ahead with
        | .error error => .error error
        | .ok (value, after) =>
            have fromAhead := after.advanced
            (readItems depth after.cursor false (value :: read)).from (by omega)
      else if c = ',' then
        let item := next.skipBlanks
        have itemReached : item.size ≤ next.size := next.skip_blanks_size_le
        match item.rest with
        | [] => item.reject .endInValue
        | ']' :: _ => item.reject .trailingComma
        | _ =>
            match readValue depth item with
            | .error error => .error error
            | .ok (value, after) =>
                have fromItem := after.advanced
                (readItems depth after.cursor false (value :: read)).from (by omega)
      else ahead.reject .expectedListEnd
termination_by (cursor.size, 1)
decreasing_by
  · rcases Nat.lt_or_eq_of_le reached with less | same
    · exact Prod.Lex.left _ _ less
    · rw [same]; exact Prod.Lex.right _ (by decide)
  · exact Prod.Lex.left _ _ (by omega)
  · exact Prod.Lex.left _ _ (Nat.lt_of_le_of_lt itemReached shorter)
  · exact Prod.Lex.left _ _
      (Nat.lt_of_lt_of_le fromItem (Nat.le_of_lt (Nat.lt_of_le_of_lt itemReached shorter)))

/-- Read the members of a mapping; `read` holds those already read, in order. -/
def readMembers (depth : Nat) (cursor : Cursor) (first : Bool) (read : Members) :
    Reading cursor Value :=
  let ahead := cursor.skipBlanks
  have reached : ahead.size ≤ cursor.size := cursor.skip_blanks_size_le
  match h : ahead.rest with
  | [] => ahead.reject .endInObject
  | c :: rest =>
      let next : Cursor := ⟨ahead.position.after c, rest⟩
      have shorter : next.size < cursor.size :=
        Nat.lt_of_lt_of_le (Cursor.size_lt_of_rest h _) reached
      if c = '}' then .ok (.object read, ⟨next, shorter⟩)
      else if first then
        if c = '"' then
          match readText next [] with
          | .error error => .error error
          | .ok (key, atColon) =>
              have keyRead := atColon.advanced
              match readColon atColon.cursor with
              | .error error => .error error
              | .ok (_, atValue) =>
                  have colonRead := atValue.advanced
                  match readValue depth atValue.cursor with
                  | .error error => .error error
                  | .ok (value, after) =>
                      have valueRead := after.advanced
                      (readMembers depth after.cursor false (Members.insert key value read)).from
                        (by omega)
        else ahead.reject .keyNotString
      else if c = ',' then
        let item := next.skipBlanks
        have itemReached : item.size ≤ next.size := next.skip_blanks_size_le
        match g : item.rest with
        | [] => item.reject .endInValue
        | '}' :: _ => item.reject .trailingComma
        | '"' :: rest =>
            let inKey : Cursor := ⟨item.position.after '"', rest⟩
            have inside : inKey.size < item.size := Cursor.size_lt_of_rest g _
            match readText inKey [] with
            | .error error => .error error
            | .ok (key, atColon) =>
                have keyRead := atColon.advanced
                match readColon atColon.cursor with
                | .error error => .error error
                | .ok (_, atValue) =>
                    have colonRead := atValue.advanced
                    match readValue depth atValue.cursor with
                    | .error error => .error error
                    | .ok (value, after) =>
                        have valueRead := after.advanced
                        (readMembers depth after.cursor false (Members.insert key value read)).from
                          (by omega)
        | _ => item.reject .keyNotString
      else ahead.reject .expectedObjectEnd
termination_by (cursor.size, 1)
decreasing_by
  all_goals exact Prod.Lex.left _ _ (by omega)

end

def read (text : String) : Except SyntaxError Value := do
  let (value, after) ← readValue (nestingLimit - 1) (Cursor.ofString text)
  let ahead := after.cursor.skipBlanks
  match ahead.rest with
  | [] => pure value
  | _ => ahead.reject .trailingCharacters

end RefLint.Json
