/-!
# Texts cut at a separator
-/

namespace RefLint

set_option autoImplicit false

/-- The parts of a text between its separators; a text without one is a single part. -/
def splitAt (separator : Char) : List Char → List (List Char)
  | [] => [[]]
  | c :: rest =>
      if c = separator then [] :: splitAt separator rest
      else
        match splitAt separator rest with
        | part :: parts => (c :: part) :: parts
        | [] => [[c]]

theorem split_at_separator (separator : Char) (rest : List Char) :
    splitAt separator (separator :: rest) = [] :: splitAt separator rest := by
  rw [splitAt, if_pos rfl]

theorem split_at_append {separator : Char} {part rest first : List Char} {others : List (List Char)}
    (clean : separator ∉ part) (split : splitAt separator rest = first :: others) :
    splitAt separator (part ++ rest) = (part ++ first) :: others := by
  induction part with
  | nil => exact split
  | cons c part ih =>
      obtain ⟨different, clean⟩ := not_or.1 (mt List.mem_cons.2 clean)
      rw [List.cons_append, splitAt, if_neg (Ne.symm different), ih clean]
      rfl

theorem split_at_ne_nil (separator : Char) (text : List Char) : splitAt separator text ≠ [] := by
  cases text with
  | nil => simp [splitAt]
  | cons c rest =>
      rw [splitAt]
      split
      · simp
      · split <;> simp

theorem split_at_parts (separator : Char) (before behind : List Char) :
    splitAt separator (before ++ separator :: behind) =
      splitAt separator before ++ splitAt separator behind := by
  induction before with
  | nil => rw [List.nil_append, split_at_separator]; rfl
  | cons c rest ih =>
      rw [List.cons_append, splitAt, splitAt, ih]
      split
      · rfl
      · cases parts : splitAt separator rest with
        | nil => exact absurd parts (split_at_ne_nil separator rest)
        | cons => rfl

def splitOnce? (separator : List Char) : List Char → Option (List Char × List Char)
  | [] => none
  | c :: rest =>
      if separator.isPrefixOf (c :: rest) then some ([], (c :: rest).drop separator.length)
      else (splitOnce? separator rest).map fun (before, behind) => (c :: before, behind)

end RefLint
