import RefLint.Proofs.Places
import RefLint.Pruning

/-!
# How a pointer is spelled

Several spellings may lead to one place: the slash after the `#` may be left out, a
position may have leading zeros, and a `~` that escapes nothing stands for itself. The
canonical spelling writes each key escaped behind a slash and each position in decimal.
Among pointers in canonical spelling, containment of texts is containment of paths.
-/

namespace RefLint

set_option autoImplicit false

def Step.segment : Step → String
  | .key name => name
  | .position index => toString index

namespace Pointer

def spelled (keys : List String) : List Char :=
  keys.flatMap fun key => '/' :: escapeChars key.toList

/-- Spelled with `#` and a slash before each key, and without leading zeros in the
segments that are positions of the given document. -/
def Canonical (root : Value) (pointer : String) : Prop :=
  ∃ keys, pointer = ofKeys keys ∧
    ∀ route, route? root keys = some route → keys = route.map Step.segment

/-- A route that is written step by step has its pointer in canonical spelling. -/
theorem canonical_of_route {root : Value} (route : Route)
    (routed : route? root (route.map Step.segment) = some route) :
    Canonical root (ofKeys (route.map Step.segment)) := by
  refine ⟨_, rfl, fun other otherRouted => ?_⟩
  rw [Option.some.inj (otherRouted.symm.trans routed)]

section Escaping

theorem unescape_cons {c : Char} (plain : c ≠ '~') (rest : List Char) :
    unescapeChars (c :: rest) = c :: unescapeChars rest := by
  rw [unescapeChars] <;> simp [plain]

theorem unescape_escape (key : List Char) : unescapeChars (escapeChars key) = key := by
  induction key with
  | nil => rfl
  | cons c rest ih =>
      by_cases tilde : c = '~'
      · subst tilde
        rw [escapeChars, unescapeChars, ih]
      by_cases slash : c = '/'
      · subst slash
        rw [escapeChars, unescapeChars, ih]
      rw [escapeChars, unescape_cons tilde, ih] <;> simp [tilde, slash]

theorem slash_not_mem_escape (key : List Char) : '/' ∉ escapeChars key := by
  induction key with
  | nil => simp [escapeChars]
  | cons c rest ih =>
      by_cases tilde : c = '~'
      · subst tilde
        simp [escapeChars, ih]
      by_cases slash : c = '/'
      · subst slash
        simp [escapeChars, ih]
      rw [escapeChars] <;> simp [tilde, slash, ih, Ne.symm slash]

end Escaping

section Segments

theorem split_at_spelled (keys : List String) :
    splitAt '/' (spelled keys) = [] :: keys.map fun key => escapeChars key.toList := by
  induction keys with
  | nil => rfl
  | cons key rest ih =>
      have split := split_at_append (slash_not_mem_escape key.toList) ih
      rw [List.append_nil] at split
      rw [spelled, List.flatMap_cons, List.cons_append, split_at_separator, ← spelled, split,
        List.map_cons]

theorem to_list_of_keys (keys : List String) : (ofKeys keys).toList = '#' :: spelled keys := by
  have written : ("#" : String).toList = ['#'] := rfl
  have slash : ("/" : String).toList = ['/'] := rfl
  simp [ofKeys, spelled, escape, written, slash, List.flatMap_map]

@[simp] theorem segments_of_keys (keys : List String) : segments (ofKeys keys) = keys := by
  have parts := split_at_spelled keys
  have written : writtenSegments ('#' :: spelled keys) =
      keys.map fun key => escapeChars key.toList := by
    cases keys with
    | nil => rfl
    | cons key rest =>
        rw [spelled, List.flatMap_cons, List.cons_append] at parts ⊢
        rw [split_at_separator] at parts
        exact List.tail_eq_of_cons_eq parts
  rw [segments, to_list_of_keys, written, List.map_map]
  simp [Function.comp_def, unescape_escape]

theorem of_keys_injective {keys others : List String} (same : ofKeys keys = ofKeys others) :
    keys = others := by
  rw [← segments_of_keys keys, same, segments_of_keys]

end Segments

section Positions

theorem digits_of_position (position : Nat) :
    ∀ c ∈ (toString position).toList, c.isDigit = true := by
  intro c listed
  rw [Nat.toString_eq_repr, Nat.toList_repr] at listed
  exact Nat.isDigit_of_mem_toDigits (by decide) (by decide) listed

theorem index_to_string (position : Nat) : index? (toString position) = some position := by
  have digits := digits_of_position position
  have valued := @Nat.ofDigitChars_ten_toDigits position
  rw [Nat.ofDigitChars_eq_foldl] at valued
  simp only [Nat.mul_comm 10] at valued
  rw [index?, if_neg]
  · rw [Nat.toString_eq_repr, Nat.toList_repr]
    exact congrArg some valued
  · have notEmpty : Nat.toDigits 10 position ≠ [] := Nat.toDigits_ne_nil
    simpa [notEmpty] using digits

theorem escape_digits {digits : List Char} (all : ∀ c ∈ digits, c.isDigit = true) :
    escapeChars digits = digits := by
  induction digits with
  | nil => rfl
  | cons c rest ih =>
      have digit := all c List.mem_cons_self
      have notTilde : c ≠ '~' := by
        rintro rfl
        contradiction
      have notSlash : c ≠ '/' := by
        rintro rfl
        contradiction
      rw [escapeChars, ih fun other listed => all other (List.mem_cons_of_mem _ listed)]
      · exact notTilde
      · exact notSlash

theorem escape_position (position : Nat) : escape (toString position) = toString position := by
  rw [escape, escape_digits (digits_of_position position), String.ofList_toList]

theorem step_of_segment {value next : Value} {taken : Step}
    (child : value.child? taken = some next) : step? value taken.segment = some taken := by
  cases value with
  | object members =>
      cases taken with
      | key name => rfl
      | position => contradiction
  | array items =>
      cases taken with
      | key => contradiction
      | position index =>
          rw [step?, Step.segment, index_to_string]
          rfl
  | null | bool | number | string => cases taken <;> contradiction

theorem route_of_segments {value part : Value} {route : Route}
    (found : value.at? route = some part) : route? value (route.map Step.segment) = some route := by
  induction route generalizing value with
  | nil => rfl
  | cons taken rest ih =>
      obtain ⟨next, child, further⟩ := Option.bind_eq_some_iff.1 found
      exact route_cons_iff.2 ⟨taken, next, rest, step_of_segment child, child, ih further, rfl⟩

end Positions

section Containment

theorem contains_iff {outer inner : String} : contains outer inner = true ↔
    inner = outer ∨ outer.toList ++ ['/'] <+: inner.toList := by
  unfold contains
  split
  · rename_i ended
    have shorter : inner.toList.length ≤ outer.toList.length := List.drop_eq_nil_iff.1 ended
    rw [beq_iff_eq, eq_comm]
    refine (or_iff_left fun longer => ?_).symm
    have := longer.length_le
    rw [List.length_append, List.length_singleton] at this
    omega
  · rename_i c behind more
    have longer : inner ≠ outer := by
      rintro rfl
      rw [List.drop_length] at more
      contradiction
    rw [Bool.and_eq_true, beq_iff_eq, List.isPrefixOf_iff_prefix, or_iff_right longer]
    constructor
    · rintro ⟨rfl, rest, split⟩
      rw [← split, List.drop_left] at more
      exact ⟨behind, by rw [← split, more, List.append_assoc, List.singleton_append]⟩
    · rintro ⟨rest, split⟩
      rw [List.append_assoc] at split
      rw [← split, List.drop_left, List.singleton_append] at more
      exact ⟨(List.cons.inj more).1.symm, _, split⟩

/-- One canonical pointer contains another exactly when its keys come first in the other. -/
theorem contains_of_keys_iff {outer inner : List String} :
    contains (ofKeys outer) (ofKeys inner) = true ↔ outer <+: inner := by
  rw [contains_iff, to_list_of_keys, to_list_of_keys]
  constructor
  · rintro (same | ⟨behind, spelling⟩)
    · obtain rfl := of_keys_injective same
      exact List.prefix_refl inner
    · -- Cut at the slashes, the outer text gives the first parts of the inner one.
      have spelledInner : spelled inner = spelled outer ++ '/' :: behind := by
        simpa using spelling.symm
      have parts : splitAt '/' (spelled inner) =
          splitAt '/' (spelled outer) ++ splitAt '/' behind := by
        rw [← split_at_parts, spelledInner]
      rw [split_at_spelled, split_at_spelled, List.cons_append] at parts
      have escaped : (outer.map fun key => escapeChars key.toList) <+:
          inner.map fun key => escapeChars key.toList := ⟨_, (List.tail_eq_of_cons_eq parts).symm⟩
      have unescaped := escaped.map fun part => String.ofList (unescapeChars part)
      simpa [Function.comp_def, unescape_escape] using unescaped
  · rintro ⟨more, rfl⟩
    cases more with
    | nil => exact .inl (by rw [List.append_nil])
    | cons key rest => exact .inr ⟨escapeChars key.toList ++ spelled rest, by simp [spelled]⟩

end Containment

end Pointer

end RefLint
