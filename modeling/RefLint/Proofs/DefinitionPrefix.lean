import RefLint.Proofs.PointerSpelling

/-!
# Places below a prefix

Whether a pointer is a shared definition is asked of its text, and so is whether one pointer
contains another. Both tests stop at a slash, and no escaped key has one. So they tell what the
keys tell: a prefix made from a pointer covers the places strictly below it, and no key that is
only longer.
-/

namespace RefLint

set_option autoImplicit false

/-- A text that neither begins nor ends with a slash. -/
structure Trimmed (text : List Char) : Prop where
  begins : ∃ c rest, text = c :: rest ∧ c ≠ '/'
  ends : ∃ front c, text = front ++ [c] ∧ c ≠ '/'

section Normalizing

variable {text : List Char}

theorem drop_slashes (slashes : List Char) (only : ∀ c ∈ slashes, c = '/')
    (begins : ∃ c rest, text = c :: rest ∧ c ≠ '/') :
    (slashes ++ text).dropWhile (· == '/') = text := by
  obtain ⟨c, rest, rfl, different⟩ := begins
  rw [List.dropWhile_append_of_pos fun c listed => beq_iff_eq.2 (only c listed),
    List.dropWhile_cons_of_neg]
  simpa using different

theorem normalize_marked {slashes : List Char} (trimmed : Trimmed text)
    (only : ∀ c ∈ slashes, c = '/') :
    normalizePrefix (String.ofList ('#' :: '/' :: (text ++ slashes))) =
      String.ofList ('#' :: '/' :: (text ++ ['/'])) := by
  have front : (('#' :: '/' :: (text ++ slashes)).dropWhile (· == '#')).dropWhile (· == '/') =
      text ++ slashes := by
    obtain ⟨c, rest, rfl, different⟩ := trimmed.begins
    exact drop_slashes ['/'] (by simp) ⟨c, rest ++ slashes, rfl, different⟩
  -- Seen from the end, the slashes stand in front of the last character of the text.
  have back : ((text ++ slashes).reverse.dropWhile (· == '/')).reverse = text := by
    obtain ⟨before, c, ending, different⟩ := trimmed.ends
    rw [List.reverse_append,
      drop_slashes slashes.reverse fun c listed => only c (List.mem_reverse.1 listed),
      List.reverse_reverse]
    exact ⟨c, before.reverse, by rw [ending]; simp, different⟩
  rw [normalizePrefix, String.toList_ofList, front, back]
  apply String.toList_injective
  simp

end Normalizing

namespace Pointer

variable {key : String} {keys outer inner : List String}

theorem escape_ne_nil (nonempty : key ≠ "") : escapeChars key.toList ≠ [] := by
  intro empty
  have same := unescape_escape key.toList
  rw [empty] at same
  exact nonempty (String.toList_injective same.symm)

theorem escape_trimmed (nonempty : key ≠ "") : Trimmed (escapeChars key.toList) := by
  -- An escaped key has no slash at all.
  have clean := slash_not_mem_escape key.toList
  have written := escape_ne_nil nonempty
  constructor
  · obtain ⟨c, rest, begins⟩ := List.exists_cons_of_ne_nil written
    refine ⟨c, rest, begins, ?_⟩
    rintro rfl
    exact clean (begins ▸ List.mem_cons_self)
  · refine ⟨_, _, (List.dropLast_append_getLast written).symm, ?_⟩
    intro slash
    exact clean (slash ▸ List.getLast_mem written)

theorem spelled_trimmed (first : key ≠ "") (later : ∀ other ∈ keys, other ≠ "") :
    Trimmed (escapeChars key.toList ++ spelled keys) where
  begins := by
    obtain ⟨c, rest, begins, different⟩ := (escape_trimmed first).begins
    exact ⟨c, rest ++ spelled keys, by rw [begins, List.cons_append], different⟩
  ends := by
    rcases List.eq_nil_or_concat keys with rfl | ⟨front, last, rfl⟩
    · rw [spelled, List.flatMap_nil, List.append_nil]
      exact (escape_trimmed first).ends
    · obtain ⟨before, c, ending, different⟩ := (escape_trimmed (later last (by simp))).ends
      refine ⟨escapeChars key.toList ++ (spelled front ++ '/' :: before), c, ?_, different⟩
      simp [spelled, ending]

/-- A pointer through keys that are not empty becomes a prefix by a single slash behind it. -/
theorem normalize_of_keys (proper : keys ≠ []) (nonempty : ∀ key ∈ keys, key ≠ "")
    (slashes : List Char) (only : ∀ c ∈ slashes, c = '/') :
    normalizePrefix (ofKeys keys ++ String.ofList slashes) = ofKeys keys ++ "/" := by
  obtain ⟨first, rest, rfl⟩ := List.exists_cons_of_ne_nil proper
  obtain ⟨firstNonempty, restNonempty⟩ := List.forall_mem_cons.1 nonempty
  have spelling : (ofKeys (first :: rest)).toList =
      '#' :: '/' :: (escapeChars first.toList ++ spelled rest) := by
    rw [to_list_of_keys, spelled, List.flatMap_cons, List.cons_append, ← spelled]
  have marked : ofKeys (first :: rest) ++ String.ofList slashes =
      String.ofList ('#' :: '/' :: ((escapeChars first.toList ++ spelled rest) ++ slashes)) := by
    apply String.toList_injective
    rw [String.toList_append, spelling, String.toList_ofList, String.toList_ofList]
    rfl
  rw [marked, normalize_marked (spelled_trimmed firstNonempty restNonempty) only]
  apply String.toList_injective
  rw [String.toList_append, spelling, String.toList_ofList]
  rfl

theorem slash_behind_iff : (ofKeys outer ++ "/").toList <+: (ofKeys inner).toList ↔
    outer <+: inner ∧ inner ≠ outer := by
  have slash : (ofKeys outer ++ "/").toList = (ofKeys outer).toList ++ ['/'] :=
    String.toList_append
  -- Containment leaves two cases, and the slash excludes that the pointers are the same.
  rw [slash, ← contains_of_keys_iff, contains_iff]
  constructor
  · intro behind
    refine ⟨.inr behind, ?_⟩
    rintro rfl
    have longer := behind.length_le
    rw [List.length_append, List.length_singleton] at longer
    omega
  · rintro ⟨same | behind, different⟩
    · exact absurd (of_keys_injective same) different
    · exact behind

/-- Between canonical pointers, containment of texts is that of paths; and the prefix made from
a canonical pointer, whether a slash ends it or not, covers what lies strictly below. -/
theorem text_containment_is_path_containment :
    (∀ outer inner : List String, contains (ofKeys outer) (ofKeys inner) = true ↔
      segments (ofKeys outer) <+: segments (ofKeys inner)) ∧
    ∀ keys : List String, keys ≠ [] → (∀ key ∈ keys, key ≠ "") →
      ∀ text, text = ofKeys keys ∨ text = ofKeys keys ++ "/" →
        ∀ (options : RefOptions) (inner : List String),
          (options.withDefinitionsPrefix text).isDefinition (ofKeys inner) = true ↔
            keys <+: segments (ofKeys inner) ∧ segments (ofKeys inner) ≠ keys := by
  simp only [segments_of_keys]
  refine ⟨fun _ _ => contains_of_keys_iff, fun keys proper nonempty text written options inner => ?_⟩
  have normalized : normalizePrefix text = ofKeys keys ++ "/" := by
    rcases written with rfl | rfl
    · simpa using normalize_of_keys proper nonempty [] (by simp)
    · exact normalize_of_keys proper nonempty ['/'] (by simp)
  rw [RefOptions.isDefinition, RefOptions.withDefinitionsPrefix, normalized,
    List.isPrefixOf_iff_prefix, slash_behind_iff]

/-- Keys that begin with a mark or hold marks: what lies below them is covered, they themselves
and a key that is only longer are not. -/
theorem longer_key_not_covered :
    (["#defs", "a/b~"] ≠ [] ∧ ∀ key ∈ ["#defs", "a/b~"], key ≠ "") ∧
      RefOptions.isDefinition (({} : RefOptions).withDefinitionsPrefix "#/#defs/a~1b~0/")
        "#/#defs/a~1b~0//c" = true ∧
      ¬RefOptions.isDefinition (({} : RefOptions).withDefinitionsPrefix "#/#defs/a~1b~0/")
        "#/#defs/a~1b~0" = true ∧
      ¬RefOptions.isDefinition (({} : RefOptions).withDefinitionsPrefix "#/#defs/a~1b~0/")
        "#/#defs/a~1b~0c" = true := by
  have hypotheses : ["#defs", "a/b~"] ≠ [] ∧ ∀ key ∈ ["#defs", "a/b~"], key ≠ "" := by decide
  have covered := text_containment_is_path_containment.2 ["#defs", "a/b~"] hypotheses.1
    hypotheses.2 "#/#defs/a~1b~0/" (.inr (by decide +kernel)) {}
  have below : ofKeys ["#defs", "a/b~", "", "c"] = "#/#defs/a~1b~0//c" := by decide +kernel
  have itself : ofKeys ["#defs", "a/b~"] = "#/#defs/a~1b~0" := by decide +kernel
  have longer : ofKeys ["#defs", "a/b~c"] = "#/#defs/a~1b~0c" := by decide +kernel
  refine ⟨hypotheses, ?_, ?_, ?_⟩
  · rw [← below, covered, segments_of_keys]
    decide
  · rw [← itself, covered, segments_of_keys]
    decide
  · rw [← longer, covered, segments_of_keys]
    decide

end Pointer

end RefLint
