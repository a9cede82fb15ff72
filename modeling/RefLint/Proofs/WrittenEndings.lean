import Mathlib.Data.List.Basic
import RefLint.Command.Run

/-!
# How written documents end

What is printed has no white space at its end, but for one line end. A document written
as YAML ends in its last scalar, however deep that one lies, and a scalar in quotes, a
number, a word or an empty collection ends in a character of its own. So white space at
the end belongs to a plain text, which may end in a white character other than a blank,
or to a literal block, which keeps the end of its text.
-/

namespace RefLint

set_option autoImplicit false

section Endings

variable {front back : List Char} {text : String} {last : Char}

/-- The last character is there and is no white space. -/
def EndsSolid (chars : List Char) : Prop :=
  ∃ last, chars.getLast? = some last ∧ isWhiteSpace last = false

/-- A line feed ends the last line, which ends in no white space. -/
def EndsLine (chars : List Char) : Prop := ∃ line, chars = line ++ ['\n'] ∧ EndsSolid line

/-- No white space is at the end, but for one line feed perhaps. -/
def EndsTight (chars : List Char) : Prop := EndsSolid chars ∨ EndsLine chars

theorem EndsSolid.nonempty (solid : EndsSolid front) : front ≠ [] := by
  rintro rfl
  simp [EndsSolid] at solid

theorem ends_solid_concat : EndsSolid (front ++ [last]) ↔ isWhiteSpace last = false := by
  simp [EndsSolid]

theorem ends_solid_append (nonempty : back ≠ []) : EndsSolid (front ++ back) ↔ EndsSolid back := by
  rw [EndsSolid, EndsSolid, List.getLast?_append_of_ne_nil front nonempty]

theorem ends_line_concat : EndsLine (front ++ [last]) ↔ last = '\n' ∧ EndsSolid front := by
  constructor
  · rintro ⟨line, same, solid⟩
    obtain ⟨rfl, rfl⟩ := List.append_singleton_inj.1 same
    exact ⟨rfl, solid⟩
  · rintro ⟨rfl, solid⟩
    exact ⟨front, rfl, solid⟩

theorem ends_line_feed : EndsLine (front ++ ['\n']) ↔ EndsSolid front :=
  ends_line_concat.trans (and_iff_right rfl)

theorem ends_line_append (long : 2 ≤ back.length) : EndsLine (front ++ back) ↔ EndsLine back := by
  rcases List.eq_nil_or_concat' back with rfl | ⟨line, last, rfl⟩
  · simp at long
  · have nonempty : line ≠ [] := by
      rintro rfl
      simp at long
    rw [← List.append_assoc, ends_line_concat, ends_line_concat, ends_solid_append nonempty]

theorem white_of_break {c : Char} (breaks : Yaml.isBreak c = true) : isWhiteSpace c = true := by
  simp only [Yaml.isBreak, Bool.or_eq_true, beq_iff_eq] at breaks
  rcases breaks with (((rfl | rfl) | rfl) | rfl) | rfl <;> decide

/-- Trimming leaves nothing or ends at the last character that is no white space. -/
theorem trim_end_ends (text : String) :
    (trimEnd text).toList = [] ∨ EndsSolid (trimEnd text).toList := by
  rw [trimEnd, String.toList_ofList]
  cases kept : text.toList.reverse.dropWhile isWhiteSpace with
  | nil => exact .inl rfl
  | cons last before =>
      have nonempty : text.toList.reverse.dropWhile isWhiteSpace ≠ [] := by simp [kept]
      have solid := List.head_dropWhile_not isWhiteSpace nonempty
      simp only [kept, List.head_cons] at solid
      rw [List.reverse_cons]
      exact .inr (ends_solid_concat.2 solid)

/-- Printing leaves a text as it is when it consists of lines with a solid end, or of
an empty line. -/
theorem printed_eq_iff : Command.printed text = text ↔ EndsLine text.toList ∨ text = "\n" := by
  constructor
  · intro same
    rcases trim_end_ends text with empty | solid
    · right
      rw [← same, Command.printed, String.toList_eq_nil_iff.1 empty]
      rfl
    · left
      rw [← same, Command.printed, String.toList_append]
      exact ⟨_, rfl, solid⟩
  · rintro (⟨line, ends, last, present, solid⟩ | rfl)
    · obtain ⟨before, rfl⟩ := List.getLast?_eq_some_iff.1 present
      rw [← String.toList_inj, Command.printed, String.toList_append, trimEnd,
        String.toList_ofList, ends]
      have newline : isWhiteSpace '\n' = true := by decide
      simp [newline, solid]
    · decide

end Endings

namespace Yaml

section Numbers

variable {text other : String}

def Unspaced (text : String) : Prop := ∀ c ∈ text.toList, isWhiteSpace c = false

theorem unspaced_append : Unspaced (text ++ other) ↔ Unspaced text ∧ Unspaced other := by
  rw [Unspaced, String.toList_append, List.forall_mem_append]
  rfl

theorem unspaced_of_all (all : text.toList.all (fun c => !isWhiteSpace c) = true) :
    Unspaced text := by
  simpa [Unspaced] using all

theorem digit_not_white {c : Char} (digit : c.isDigit = true) : isWhiteSpace c = false := by
  have range : 48 ≤ c.toNat ∧ c.toNat ≤ 57 := by
    simpa [Char.isDigit, UInt32.le_iff_toNat_le] using digit
  simp only [isWhiteSpace, whiteSpaceRanges, List.any_cons, List.any_nil, Bool.or_false,
    Bool.or_eq_false_iff, Bool.and_eq_false_iff, decide_eq_false_iff_not]
  omega

theorem unspaced_of_digits {digits : List Char} (all : ∀ c ∈ digits, c.isDigit = true) :
    Unspaced (String.ofList digits) := by
  intro c present
  rw [String.toList_ofList] at present
  exact digit_not_white (all c present)

theorem unspaced_zeros (count : Nat) : Unspaced (Decimal.zeros count) := by
  refine unspaced_of_digits fun c present => ?_
  rw [List.eq_of_mem_replicate present]
  rfl

theorem decimal_digit {n : Nat} {c : Char} (present : c ∈ Nat.toDigits 10 n) :
    c.isDigit = true := Nat.isDigit_of_mem_toDigits (by decide) (by decide) present

theorem unspaced_nat (n : Nat) : Unspaced n.repr :=
  unspaced_of_digits fun _ => decimal_digit

theorem unspaced_int (n : Int) : Unspaced (toString n) := by
  have minus : Unspaced "-" := unspaced_of_all (by decide)
  rw [Int.toString_eq_repr, Int.repr_eq_if]
  split
  · exact unspaced_nat _
  · exact unspaced_append.2 ⟨minus, unspaced_nat _⟩

theorem unspaced_render (style : Decimal.Style) (d : Decimal) : Unspaced (d.render style) := by
  have all : ∀ digits : List Char, digits ⊆ Nat.toDigits 10 d.digits →
      Unspaced (String.ofList digits) := by
    intro digits among
    exact unspaced_of_digits fun c present => decimal_digit (among present)
  have point : Unspaced "." := unspaced_of_all (by decide)
  have power : Unspaced "e" := unspaced_of_all (by decide)
  have zeroPoint : Unspaced "0." := unspaced_of_all (by decide)
  have fraction : Unspaced (if style.keepsFraction then ".0" else "") := by
    split <;> exact unspaced_of_all (by decide)
  unfold Decimal.render
  simp only
  split
  · split
    · simp only [unspaced_append]
      exact ⟨⟨all _ (List.Subset.refl _), unspaced_zeros _⟩, fraction⟩
    · split
      · simp only [unspaced_append]
        exact ⟨⟨all _ (List.take_subset _ _), point⟩, all _ (List.drop_subset _ _)⟩
      · simp only [unspaced_append]
        exact ⟨⟨zeroPoint, unspaced_zeros _⟩, all _ (List.Subset.refl _)⟩
  · simp only [unspaced_append]
    refine ⟨⟨⟨?_, power⟩, ?_⟩, unspaced_int _⟩
    · split
      · rename_i first second rest same
        rw [same] at all
        exact unspaced_append.2 ⟨unspaced_append.2 ⟨all [first] (by simp), point⟩,
          all (second :: rest) (List.subset_cons_self _ _)⟩
      · exact all _ (List.Subset.refl _)
    · split <;> exact unspaced_of_all (by decide)

theorem render_ne_empty (style : Decimal.Style) (d : Decimal) : d.render style ≠ "" := by
  have digits : String.ofList (Nat.toDigits 10 d.digits) ≠ "" := by
    simp [← String.toList_eq_nil_iff]
  unfold Decimal.render
  simp only
  split
  · split
    · simp [digits]
    · split <;> simp
  · simp

theorem int_ne_empty (n : Int) : toString n ≠ "" := by
  have digits : ∀ n : Nat, n.repr ≠ "" := by
    intro n
    simp [← String.toList_eq_nil_iff]
  rw [Int.toString_eq_repr, Int.repr_eq_if]
  split
  · exact digits _
  · simp

theorem unspaced_number (number : Number) : Unspaced (writeNumber number) := by
  cases number with
  | integer value => exact unspaced_int value
  | float value =>
      have minus : Unspaced "-" := unspaced_of_all (by decide)
      have magnitude : Unspaced (if value.isZero then
          (if floatStyle.keepsFraction then "0.0" else "0")
          else (Decimal.shortest value).render floatStyle) := by
        split
        · exact unspaced_of_all (by decide)
        · exact unspaced_render _ _
      simp only [writeNumber, writeFloat, Decimal.renderBinary64]
      split
      · split
        · exact unspaced_append.2 ⟨minus, magnitude⟩
        · exact magnitude
      · exact unspaced_of_all (by decide)

theorem number_ne_empty (number : Number) : writeNumber number ≠ "" := by
  cases number with
  | integer value => exact int_ne_empty value
  | float value =>
      simp only [writeNumber, writeFloat, Decimal.renderBinary64]
      split
      · split
        · simp
        · split
          · decide
          · exact render_ne_empty _ _
      · simp

theorem number_ends_solid (number : Number) : EndsSolid (writeNumber number).toList := by
  have nonempty : (writeNumber number).toList ≠ [] := by
    rw [ne_eq, String.toList_eq_nil_iff]
    exact number_ne_empty number
  exact ⟨_, List.getLast?_eq_some_getLast nonempty,
    unspaced_number number _ (List.getLast_mem nonempty)⟩

end Numbers

section Texts

variable {indent : Nat} {text : String}

theorem indent_lines_cons (indent : Nat) (atStart : Bool) (c : Char) (rest : List Char) :
    ∃ front, indentLines indent atStart (c :: rest) =
      front ++ c :: indentLines indent (isBreak c) rest := by
  cases breaks : isBreak c with
  | true => exact ⟨[], by simp [indentLines, breaks]⟩
  | false => exact ⟨if atStart then spaces indent else [], by simp [indentLines, breaks]⟩

theorem indent_lines_append (indent : Nat) (atStart : Bool) (front back : List Char) :
    ∃ indented later, indentLines indent atStart (front ++ back) =
      indented ++ indentLines indent later back := by
  induction front generalizing atStart with
  | nil => exact ⟨[], atStart, rfl⟩
  | cons c rest ih =>
      obtain ⟨before, first⟩ := indent_lines_cons indent atStart c (rest ++ back)
      obtain ⟨indented, later, others⟩ := ih (isBreak c)
      exact ⟨before ++ c :: indented, later, by rw [List.cons_append, first, others]; simp⟩

theorem indent_lines_last (indent : Nat) (atStart : Bool) (front : List Char) (last : Char) :
    ∃ indented, indentLines indent atStart (front ++ [last]) = indented ++ [last] := by
  obtain ⟨indented, later, same⟩ := indent_lines_append indent atStart front [last]
  obtain ⟨blanks, first⟩ := indent_lines_cons indent later last []
  exact ⟨indented ++ blanks, by rw [same, first, indentLines, List.append_assoc]⟩

/-- No blank comes between the last two characters when the last one is a break. -/
theorem indent_lines_break (indent : Nat) (atStart : Bool) (front : List Char) {last : Char}
    (breaks : isBreak last = true) (before : Char) :
    ∃ indented, indentLines indent atStart (front ++ [before, last]) =
      indented ++ [before, last] := by
  obtain ⟨indented, later, same⟩ := indent_lines_append indent atStart front [before, last]
  obtain ⟨blanks, first⟩ := indent_lines_cons indent later before [last]
  exact ⟨indented ++ blanks, by rw [same, first]; simp [indentLines, breaks]⟩

theorem single_quoted_ends_solid (indent : Nat) (text : String) :
    EndsSolid (writeSingleQuoted indent text).toList := by
  obtain ⟨indented, same⟩ := indent_lines_last indent false
    (['\''] ++ text.toList.flatMap singleQuotedChar) '\''
  rw [writeSingleQuoted, String.toList_ofList, same, ends_solid_concat]
  decide

theorem double_quoted_ends_solid (text : String) : EndsSolid (writeDoubleQuoted text).toList := by
  rw [writeDoubleQuoted, String.toList_ofList, ends_solid_concat]
  decide

theorem literal_block (indent : Nat) (body : List Char) (last : Char)
    (chars : text.toList = body ++ [last]) :
    ∃ header, (writeLiteral indent text).toList =
      header ++ ['\n'] ++ indentLines indent true (body ++ [last]) ++
        if isBreak last then [] else ['\n'] := by
  refine ⟨("|" ++ indentMark text.toList ++ chompMark text.toList).toList, ?_⟩
  cases breaks : isBreak last <;> simp [writeLiteral, chars, breaks]

theorem literal_ends_line_iff (nonempty : text.toList ≠ []) :
    EndsLine (writeLiteral indent text).toList ↔ EndsTight text.toList := by
  obtain ⟨body, last, chars⟩ := (List.eq_nil_or_concat' text.toList).resolve_left nonempty
  obtain ⟨header, written⟩ := literal_block indent body last chars
  rw [written, chars, EndsTight, ends_solid_concat]
  cases breaks : isBreak last with
  | false =>
      have noBreak : last ≠ '\n' := by
        rintro rfl
        simp [isBreak] at breaks
      obtain ⟨indented, same⟩ := indent_lines_last indent true body last
      simp only [same, Bool.false_eq_true, if_false, ← List.append_assoc, ends_line_concat,
        ends_solid_concat, noBreak, false_and, or_false, true_and]
  | true =>
      have white : isWhiteSpace last = true := white_of_break breaks
      simp only [white, Bool.true_eq_false, false_or, if_true, List.append_nil]
      rcases List.eq_nil_or_concat' body with rfl | ⟨front, before, rfl⟩
      · -- The only line is empty, and in front of it is the end of the header.
        have newline : isWhiteSpace '\n' = true := by decide
        have same : indentLines indent true [last] = [last] := by simp [indentLines, breaks]
        rw [List.nil_append, same, ends_line_concat, ends_solid_concat, newline,
          ← List.nil_append [last], ends_line_concat]
        simp [EndsSolid]
      · obtain ⟨indented, same⟩ := indent_lines_break indent true front breaks before
        have split : front ++ [before] ++ [last] = front ++ [before, last] := by simp
        rw [split, same, ← List.append_assoc, ends_line_append (by simp),
          ends_line_append (by simp)]

theorem no_newline_of_plain (plain : textForm text = .plain) : '\n' ∉ text.toList := by
  intro present
  have contained : text.toList.contains '\n' = true := by simpa using present
  unfold textForm at plain
  simp only [contained, if_true] at plain
  split at plain <;> contradiction

theorem newline_of_literal (literal : textForm text = .literal) : '\n' ∈ text.toList := by
  by_contra absent
  have contained : text.toList.contains '\n' = false := by simpa using absent
  unfold textForm at literal
  simp only [contained, Bool.false_eq_true, if_false] at literal
  split at literal
  · contradiction
  · split at literal <;> contradiction

theorem plain_ne_empty (plain : textForm text = .plain) : text ≠ "" := by
  rintro rfl
  revert plain
  decide

/-- A text keeps its end between quotes, and otherwise if there is no white space to lose. -/
theorem text_line_ends_iff : EndsLine (writeTextLine indent text).toList ↔
    (textForm text = .plain ∨ textForm text = .literal → EndsTight text.toList) := by
  unfold writeTextLine writeText
  cases form : textForm text with
  | plain =>
      have noLine : ¬EndsLine text.toList := by
        rintro ⟨line, same, -⟩
        exact no_newline_of_plain form (by simp [same])
      simp [ends_line_feed, EndsTight, noLine]
  | singleQuoted => simp [ends_line_feed, single_quoted_ends_solid]
  | doubleQuoted => simp [ends_line_feed, double_quoted_ends_solid]
  | literal =>
      have nonempty := List.ne_nil_of_mem (newline_of_literal form)
      simp [literal_ends_line_iff nonempty]

theorem line_long {line : List Char} (nonempty : line ≠ []) : 2 ≤ (line ++ ['\n']).length := by
  have positive := List.length_pos_iff.2 nonempty
  rw [List.length_append, List.length_singleton]
  omega

theorem text_line_long (indent : Nat) (text : String) :
    2 ≤ (writeTextLine indent text).toList.length := by
  unfold writeTextLine writeText
  cases form : textForm text with
  | plain =>
      rw [if_neg (by simp), String.toList_append]
      exact line_long fun empty => plain_ne_empty form (String.toList_eq_nil_iff.1 empty)
  | singleQuoted =>
      rw [if_neg (by simp), String.toList_append]
      exact line_long (single_quoted_ends_solid indent text).nonempty
  | doubleQuoted =>
      rw [if_neg (by simp), String.toList_append]
      exact line_long (double_quoted_ends_solid text).nonempty
  | literal =>
      simp only [if_true, writeLiteral, String.toList_append, List.length_append]
      have bar : "|".toList.length = 1 := rfl
      have newline : "\n".toList.length = 1 := rfl
      omega

end Texts

section Values

/-- The scalar or empty collection that is written last. -/
def lastLeaf : Value → Value
  | .array (item :: items) => ofItems (lastLeaf item) items
  | .object ((_, value) :: members) => ofMembers (lastLeaf value) members
  | leaf => leaf
where
  ofItems (last : Value) : List Value → Value
    | [] => last
    | item :: rest => ofItems (lastLeaf item) rest
  ofMembers (last : Value) : List (String × Value) → Value
    | [] => last
    | (_, value) :: rest => ofMembers (lastLeaf value) rest

/-- The last text of a document, if the document ends in one that is written without
quotes, has no white space at its end but for one line feed. -/
def EndsTightly (value : Value) : Prop :=
  ∀ text, lastLeaf value = .string text → textForm text = .plain ∨ textForm text = .literal →
    EndsTight text.toList

def EndsAsLeaf (written : String) (leaf : Value) : Prop :=
  ∃ front indent, written.toList = front ++ (writeBlock indent leaf).toList

theorem EndsAsLeaf.prepend {written : String} {leaf : Value} (ends : EndsAsLeaf written leaf)
    (front : String) : EndsAsLeaf (front ++ written) leaf := by
  obtain ⟨before, indent, same⟩ := ends
  exact ⟨front.toList ++ before, indent, by rw [String.toList_append, same, List.append_assoc]⟩

theorem ends_as_itself (indent : Nat) (leaf : Value) : EndsAsLeaf (writeBlock indent leaf) leaf :=
  ⟨[], indent, rfl⟩

mutual

/-- The last of the items and members is written last, at every depth. -/
theorem write_block_ends : ∀ value indent, EndsAsLeaf (writeBlock indent value) (lastLeaf value)
  | .array (item :: items), indent => by
      rw [writeBlock]
      exact write_items_end (item :: items) indent .null (List.cons_ne_nil _ _)
  | .object (member :: members), indent => by
      rw [writeBlock]
      exact write_members_end (member :: members) indent .null (List.cons_ne_nil _ _)
  | .array [], indent => ends_as_itself indent _
  | .object [], indent => ends_as_itself indent _
  | .null, indent => ends_as_itself indent _
  | .bool _, indent => ends_as_itself indent _
  | .number _, indent => ends_as_itself indent _
  | .string _, indent => ends_as_itself indent _

theorem write_items_end : ∀ items indent last, items ≠ [] →
    EndsAsLeaf ((indentation indent).intercalate (writeBlock.writeItems indent items))
      (lastLeaf.ofItems last items)
  | [], _, _, nonempty => absurd rfl nonempty
  | [item], indent, _, _ => by
      rw [writeBlock.writeItems, writeBlock.writeItems, String.intercalate_singleton]
      exact (write_block_ends item (indent + 2)).prepend _
  | item :: next :: rest, indent, _, _ => by
      rw [writeBlock.writeItems, writeBlock.writeItems, String.intercalate_cons_cons,
        ← writeBlock.writeItems]
      exact (write_items_end (next :: rest) indent (lastLeaf item) (List.cons_ne_nil _ _)).prepend _

theorem write_members_end : ∀ (members : Members) indent last, members ≠ [] →
    EndsAsLeaf ((indentation indent).intercalate (writeBlock.writeMembers indent members))
      (lastLeaf.ofMembers last members)
  | [], _, _, nonempty => absurd rfl nonempty
  | [(key, value)], indent, _, _ => by
      rw [writeBlock.writeMembers, writeBlock.writeMembers, String.intercalate_singleton]
      split
      · exact ((write_block_ends value (valueIndent indent value)).prepend _).prepend _
      · exact ((write_block_ends value (indent + 2)).prepend _).prepend _
  | (_, value) :: next :: rest, indent, _, _ => by
      rw [writeBlock.writeMembers, writeBlock.writeMembers, String.intercalate_cons_cons,
        ← writeBlock.writeMembers]
      exact (write_members_end (next :: rest) indent (lastLeaf value)
        (List.cons_ne_nil _ _)).prepend _

end

mutual

theorem last_leaf_single : ∀ value, isCollection (lastLeaf value) = false
  | .array (item :: items) => last_of_items_single items (last_leaf_single item)
  | .object ((_, value) :: members) => last_of_members_single members (last_leaf_single value)
  | .array [] => rfl
  | .object [] => rfl
  | .null => rfl
  | .bool _ => rfl
  | .number _ => rfl
  | .string _ => rfl

theorem last_of_items_single : ∀ items {last}, isCollection last = false →
    isCollection (lastLeaf.ofItems last items) = false
  | [], _, single => single
  | item :: rest, _, _ => last_of_items_single rest (last_leaf_single item)

theorem last_of_members_single : ∀ (members : Members) {last}, isCollection last = false →
    isCollection (lastLeaf.ofMembers last members) = false
  | [], _, single => single
  | (_, value) :: rest, _, _ => last_of_members_single rest (last_leaf_single value)

end

theorem leaf_written {leaf : Value} (single : isCollection leaf = false) (indent : Nat) :
    (∃ text, leaf = .string text) ∨ ((∀ text, leaf ≠ .string text) ∧
      ∃ word, writeBlock indent leaf = word ++ "\n" ∧ EndsSolid word.toList) := by
  cases leaf with
  | string text => exact .inl ⟨text, rfl⟩
  | null => exact .inr ⟨by simp, "null", by rw [writeBlock]; rfl, 'l', by decide⟩
  | bool value =>
      refine .inr ⟨by simp, Json.writeBool value, by rw [writeBlock], 'e', ?_⟩
      cases value <;> decide
  | number value =>
      exact .inr ⟨by simp, writeNumber value, by rw [writeBlock], number_ends_solid value⟩
  | array items =>
      cases items with
      | nil => exact .inr ⟨by simp, "[]", by rw [writeBlock]; rfl, ']', by decide⟩
      | cons => contradiction
  | object members =>
      cases members with
      | nil => exact .inr ⟨by simp, "\x7b\x7d", by rw [writeBlock]; rfl, '\x7d', by decide⟩
      | cons => contradiction

theorem leaf_ends_line_iff {leaf : Value} (single : isCollection leaf = false) (indent : Nat) :
    EndsLine (writeBlock indent leaf).toList ↔ ∀ text, leaf = .string text →
      textForm text = .plain ∨ textForm text = .literal → EndsTight text.toList := by
  rcases leaf_written single indent with ⟨text, rfl⟩ | ⟨noText, word, written, solid⟩
  · rw [writeBlock, text_line_ends_iff]
    simp
  · rw [written, String.toList_append]
    exact iff_of_true (ends_line_feed.2 solid) fun text same => absurd same (noText text)

theorem leaf_long {leaf : Value} (single : isCollection leaf = false) (indent : Nat) :
    2 ≤ (writeBlock indent leaf).toList.length := by
  rcases leaf_written single indent with ⟨text, rfl⟩ | ⟨-, word, written, solid⟩
  · rw [writeBlock]
    exact text_line_long _ text
  · rw [written, String.toList_append]
    exact line_long solid.nonempty

/-- Printing leaves a written document as it is exactly when the document ends tightly. -/
theorem printed_write_iff (value : Value) :
    Command.printed (write value) = write value ↔ EndsTightly value := by
  obtain ⟨front, indent, written⟩ := write_block_ends value 0
  have single := last_leaf_single value
  have long := leaf_long single indent
  have someLine : write value ≠ "\n" := by
    intro newline
    rw [← write, newline] at written
    have lengths := congrArg List.length written
    rw [List.length_append] at lengths
    have one : "\n".toList.length = 1 := rfl
    omega
  rw [printed_eq_iff, or_iff_left someLine, write, written, ends_line_append long,
    leaf_ends_line_iff single, EndsTightly]

end Values

end Yaml

end RefLint
