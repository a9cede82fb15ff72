import RefLint.Proofs.PointerSpelling

/-!
# A pointer for every place

Escaping a key is replacing two marks one after the other in the whole text, and unescaping is
replacing them back in the opposite order. Neither second replacement touches what the first
one has put in, so both are done in one pass, and a key that is written and read is unchanged,
whichever marks it contains. So every list of keys has a pointer of its own, and every place of
a document is reached by the pointer that spells the way to it.
-/

namespace RefLint

set_option autoImplicit false

/-- A text from its `passed`-th character on, with every occurrence of a pattern replaced.
Occurrences are taken from the left and do not overlap. -/
def replaceFrom (pattern replacement : List Char) : Nat → List Char → List Char
  | _, [] => []
  | passed + 1, _ :: rest => replaceFrom pattern replacement passed rest
  | 0, c :: rest =>
      if pattern.isPrefixOf (c :: rest) then
        replacement ++ replaceFrom pattern replacement (pattern.length - 1) rest
      else c :: replaceFrom pattern replacement 0 rest

def replaceAll (pattern replacement text : List Char) : List Char :=
  replaceFrom pattern replacement 0 text

section Replacing

variable {pattern replacement : List Char}

theorem replace_passed (passed rest : List Char) :
    replaceFrom pattern replacement passed.length (passed ++ rest) =
      replaceAll pattern replacement rest := by
  induction passed with
  | nil => rfl
  | cons c passed ih =>
      rw [List.length_cons, List.cons_append, replaceFrom]
      exact ih

theorem replace_matched (c : Char) (more rest : List Char) :
    replaceAll (c :: more) replacement (c :: (more ++ rest)) =
      replacement ++ replaceAll (c :: more) replacement rest := by
  have found : (c :: more).isPrefixOf (c :: (more ++ rest)) = true :=
    List.isPrefixOf_iff_prefix.2 ⟨rest, rfl⟩
  rw [replaceAll, replaceFrom, if_pos found, List.length_cons, Nat.add_sub_cancel, replace_passed]

theorem replace_unmatched {c : Char} {rest : List Char} (absent : ¬pattern <+: c :: rest) :
    replaceAll pattern replacement (c :: rest) = c :: replaceAll pattern replacement rest := by
  rw [← List.isPrefixOf_iff_prefix] at absent
  rw [replaceAll, replaceFrom, if_neg absent]
  rfl

theorem replace_other_char {a c : Char} {more rest : List Char} (different : c ≠ a) :
    replaceAll (a :: more) replacement (c :: rest) =
      c :: replaceAll (a :: more) replacement rest := by
  apply replace_unmatched
  rw [List.cons_prefix_cons]
  exact fun found => different found.1.symm

theorem head_of_replaced {d e : Char} {text more : List Char} (different : d ≠ e)
    (begins : replaceAll pattern [e] text = d :: more) : ∃ rest, text = d :: rest := by
  cases text with
  | nil => contradiction
  | cons c rest =>
      rw [replaceAll, replaceFrom] at begins
      split at begins
      · exact absurd (List.cons.inj begins).1.symm different
      · exact ⟨rest, by rw [(List.cons.inj begins).1]⟩

end Replacing

namespace Pointer

/-- Escaping replaces each `~` by `~0` and then each `/` by `~1`. -/
theorem escape_by_replacing (key : List Char) :
    escapeChars key = replaceAll ['/'] ['~', '1'] (replaceAll ['~'] ['~', '0'] key) := by
  induction key with
  | nil => rfl
  | cons c rest ih =>
      by_cases tilde : c = '~'
      · subst tilde
        have inner := @replace_matched ['~', '0'] '~' [] rest
        rw [List.nil_append] at inner
        rw [escapeChars, ih, inner, List.cons_append, List.cons_append, List.nil_append,
          replace_other_char (by decide), replace_other_char (by decide)]
      rw [replace_other_char tilde]
      by_cases slash : c = '/'
      · subst slash
        have outer := @replace_matched ['~', '1'] '/' [] (replaceAll ['~'] ['~', '0'] rest)
        rw [List.nil_append] at outer
        rw [escapeChars, ih, outer]
        rfl
      rw [replace_other_char slash, escapeChars, ih] <;> simp [tilde, slash]

/-- Unescaping replaces each `~1` by `/` and then each `~0` by `~`. The slash of the first
replacement keeps the marks around it apart, so the second one finds no new `~0`. -/
theorem unescape_by_replacing (part : List Char) :
    unescapeChars part = replaceAll ['~', '0'] ['~'] (replaceAll ['~', '1'] ['/'] part) := by
  induction part using unescapeChars.induct with
  | case1 => rfl
  | case2 rest ih =>
      have inner := @replace_matched ['/'] '~' ['1'] rest
      rw [List.cons_append, List.nil_append] at inner
      rw [unescapeChars, ih, inner, List.cons_append, List.nil_append,
        replace_other_char (by decide)]
  | case3 rest ih =>
      have first : ¬['~', '1'] <+: '~' :: '0' :: rest := by simp [List.cons_prefix_cons]
      have outer := @replace_matched ['~'] '~' ['0'] (replaceAll ['~', '1'] ['/'] rest)
      rw [List.cons_append, List.nil_append] at outer
      have zero : replaceAll ['~', '1'] ['/'] ('0' :: rest) =
          '0' :: replaceAll ['~', '1'] ['/'] rest := replace_other_char (by decide)
      rw [unescapeChars, ih, replace_unmatched first, zero, outer]
      rfl
  | case4 c rest notSlash notTilde ih =>
      rw [unescapeChars, ih]
      · by_cases tilde : c = '~'
        · subst tilde
          have first : ¬['~', '1'] <+: '~' :: rest := by
            rintro ⟨more, begins⟩
            exact notSlash more rfl (List.cons.inj begins).2.symm
          have second : ¬['~', '0'] <+: '~' :: replaceAll ['~', '1'] ['/'] rest := by
            intro found
            rw [List.cons_prefix_cons] at found
            obtain ⟨more, begins⟩ := found.2
            rw [List.cons_append, List.nil_append] at begins
            obtain ⟨after, rfl⟩ := head_of_replaced (by decide) begins.symm
            exact notTilde after rfl rfl
          rw [replace_unmatched first, replace_unmatched second]
        · rw [replace_other_char tilde, replace_other_char tilde]
      · exact notSlash
      · exact notTilde

/-- The pointer of a list of keys is read back as that list, so it belongs to no other one; and
the pointer that spells a route, positions in decimal, leads where the route leads. -/
theorem every_place_has_pointer :
    (∀ key, escape key = String.ofList
      (replaceAll ['/'] ['~', '1'] (replaceAll ['~'] ['~', '0'] key.toList))) ∧
    (∀ pointer, segments pointer = (writtenSegments pointer.toList).map fun part =>
      String.ofList (replaceAll ['~', '0'] ['~'] (replaceAll ['~', '1'] ['/'] part))) ∧
    (∀ keys, segments (ofKeys keys) = keys) ∧
    (∀ keys others, ofKeys keys = ofKeys others → keys = others) ∧
    ∀ (root part : Value) (route : Route), root.at? route = some part →
      navigate root (ofKeys (route.map Step.segment)) = .ok part := by
  refine ⟨fun key => ?_, fun pointer => ?_, segments_of_keys, fun _ _ => of_keys_injective, ?_⟩
  · rw [escape, escape_by_replacing]
  · rw [segments]
    exact List.map_congr_left fun part _ => by rw [unescape_by_replacing]
  · intro root part route found
    rw [navigate_eq_ok_iff, segments_of_keys, descend_eq_ok_iff]
    exact ⟨route, route_of_segments found, found⟩

def markedDocument : Value :=
  .object [("", .array [.object [("a/b", .object [("~01", .object [("0", .null)])])]])]

def markedRoute : Route := [.key "", .position 0, .key "a/b", .key "~01", .key "0"]

theorem marked_place_reached :
    markedDocument.at? markedRoute = some .null ∧
      ofKeys (markedRoute.map Step.segment) = "#//0/a~1b/~001/0" ∧
      navigate markedDocument "#//0/a~1b/~001/0" = .ok .null := by
  have spelling : ofKeys (markedRoute.map Step.segment) = "#//0/a~1b/~001/0" := by decide +kernel
  have found : markedDocument.at? markedRoute = some .null := rfl
  refine ⟨found, spelling, ?_⟩
  rw [← spelling]
  exact every_place_has_pointer.2.2.2.2 markedDocument .null markedRoute found

end Pointer

end RefLint
